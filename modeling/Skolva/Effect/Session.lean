import Skolva.Effect.Pool

/-! # What a thread may do, from its own calls

A session describes a program by a state that only the program's own calls move:
which calls it may make there, and which results it may come to. What a program
follows on its own, it follows in a pool, whatever the other threads do.
-/

namespace Skolva.Effect

/-- A state moved by calls, and the calls allowed in each state. -/
structure Session (Op : Type) (Resp : Op → Type) (σ : Type) where
  first : σ
  allowed : σ → Op → Prop
  after : σ → (op : Op) → Resp op → σ

namespace Program

variable {Time Op : Type} {Resp : Op → Type} {α β σ : Type} (session : Session Op Resp σ)

/-- From this state the program makes allowed calls only, and its results are final. -/
def Follows (final : σ → α → Prop) : Program Time Op Resp α → σ → Prop
  | done value, state => final state value
  | clock next, state => ∀ instant, (next instant).Follows final state
  | call op next, state =>
      session.allowed state op ∧ ∀ resp, (next resp).Follows final (session.after state op resp)

variable {session} {final : σ → α → Prop}

theorem follows_pure {value : α} {state : σ} (hfinal : final state value) :
    (pure value : Program Time Op Resp α).Follows session final state := hfinal

theorem follows_bind {final : σ → β → Prop} {program : Program Time Op Resp α}
    {rest : α → Program Time Op Resp β} {state : σ}
    (hprogram : program.Follows session
      (fun state value => (rest value).Follows session final state) state) :
    (program >>= rest).Follows session final state := by
  change (program.bind rest).Follows session final state
  induction program generalizing state with
  | done value => exact hprogram
  | clock next ih => exact fun instant => ih instant (hprogram instant)
  | call op next ih => exact ⟨hprogram.1, fun resp => ih resp (hprogram.2 resp)⟩

/-- A call and what follows it. -/
theorem follows_perform {op : Op} {rest : Resp op → Program Time Op Resp α} {state : σ}
    (hallowed : session.allowed state op)
    (hrest : ∀ resp, (rest resp).Follows session final (session.after state op resp)) :
    (perform op >>= rest).Follows session final state :=
  follows_bind ⟨hallowed, hrest⟩

/-- A clock reading and what follows it. -/
theorem follows_readClock {rest : Time → Program Time Op Resp α} {state : σ}
    (hrest : ∀ instant, (rest instant).Follows session final state) :
    (readClock >>= rest).Follows session final state :=
  follows_bind hrest

theorem Follows.imp {final' : σ → α → Prop} {program : Program Time Op Resp α} {state : σ}
    (hprogram : program.Follows session final state)
    (himp : ∀ state value, final state value → final' state value) :
    program.Follows session final' state := by
  induction program generalizing state with
  | done value => exact himp state value hprogram
  | clock next ih => exact fun instant => ih instant (hprogram instant)
  | call op next ih => exact ⟨hprogram.1, fun resp => ih resp (hprogram.2 resp)⟩

theorem follows_map {final : σ → β → Prop} {f : α → β} {program : Program Time Op Resp α}
    {state : σ}
    (hprogram : program.Follows session (fun state value => final state (f value)) state) :
    (f <$> program).Follows session final state := by
  rw [← bind_pure_comp]
  exact follows_bind hprogram

theorem Follows.settle {program : Program Time Op Resp α} {state : σ}
    (hprogram : program.Follows session final state) (readings : Nat → Time) :
    (program.settle readings).Follows session final state := by
  induction program generalizing readings with
  | done value => exact hprogram
  | clock next ih => exact ih _ (hprogram _) _
  | call op next => exact hprogram

theorem settle_cases (program : Program Time Op Resp α) (readings : Nat → Time) :
    (∃ value, program.settle readings = done value) ∨
      ∃ op next, program.settle readings = call op next := by
  induction program generalizing readings with
  | done value => exact .inl ⟨value, rfl⟩
  | clock next ih => exact ih _ _
  | call op next => exact .inr ⟨op, next, rfl⟩

end Program

section Pool

variable {Thread Time Op : Type} {Resp : Op → Type} {α σ St : Type} [DecidableEq Thread]

/-- The state a thread has come to through its own calls. -/
def Session.along (session : Session Op Resp σ) (thread : Thread) :
    List (Event Thread Time Op Resp) → σ
  | [] => session.first
  | event :: earlier =>
      if event.thread = thread then
        session.after (session.along thread earlier) event.op event.resp
      else session.along thread earlier

variable {serve : Time → (op : Op) → St → Resp op × St}
  {allowed : Pool Thread Time Op Resp α St → Thread → Op → Prop}
  {pool first last : Pool Thread Time Op Resp α St}

section Advance

variable (session : Session Op Resp σ) (caller : Thread) (now : Time) (readings : Nat → Time)
  (op : Op) (next : Resp op → Program Time Op Resp α)

theorem Session.along_advance_self :
    session.along caller (pool.advance serve caller now readings op next).trace =
      session.after (session.along caller pool.trace) op (serve now op pool.store).1 :=
  if_pos rfl

theorem Session.along_advance_other {thread : Thread} (hother : thread ≠ caller) :
    session.along thread (pool.advance serve caller now readings op next).trace =
      session.along thread pool.trace :=
  if_neg (Ne.symm hother)

/-- A call moves the state of its thread and leaves the others. -/
theorem Session.along_advance (session : Thread → Session Op Resp σ) :
    (fun thread => (session thread).along thread
      (pool.advance serve caller now readings op next).trace) =
      Function.update (fun thread => (session thread).along thread pool.trace) caller
        ((session caller).after ((session caller).along caller pool.trace) op
          (serve now op pool.store).1) := by
  funext thread
  by_cases hown : thread = caller
  · subst hown
    rw [Function.update_self]
    exact along_advance_self ..
  · rw [Function.update_of_ne hown]
    exact along_advance_other _ _ _ _ _ _ hown

end Advance

namespace Pool.Reaches

/-- In a pool every thread keeps to its session. -/
theorem follows {session : Thread → Session Op Resp σ} {final : Thread → σ → α → Prop}
    (hreach : Reaches serve allowed first last) (hempty : first.trace = [])
    (hfirst : ∀ thread, (first.program thread).Follows (session thread) (final thread)
      (session thread).first) (thread : Thread) :
    (last.program thread).Follows (session thread) (final thread)
      ((session thread).along thread last.trace) := by
  apply hreach.invariant (motive := fun pool => ∀ thread, (pool.program thread).Follows
    (session thread) (final thread) ((session thread).along thread pool.trace))
  · intro thread
    rw [hempty]
    exact hfirst thread
  · intro pool caller now readings op next _ hpool hprogram _ thread
    by_cases hown : caller = thread
    · subst hown
      have hcaller := hpool caller
      rw [hprogram] at hcaller
      rw [advance_program_self, Session.along_advance_self]
      exact (hcaller.2 _).settle readings
    · have hother : thread ≠ caller := Ne.symm hown
      rw [advance_program_other _ _ _ _ _ _ hother, Session.along_advance_other _ _ _ _ _ _ hother]
      exact hpool thread

/-- Between the steps no thread is about to read the clock. -/
theorem settled (hreach : Reaches serve allowed first last)
    (hfirst : ∀ thread, (∃ value, first.program thread = .done value) ∨
      ∃ op next, first.program thread = .call op next) (thread : Thread) :
    (∃ value, last.program thread = .done value) ∨
      ∃ op next, last.program thread = .call op next := by
  apply hreach.invariant (motive := fun pool => ∀ thread,
    (∃ value, pool.program thread = .done value) ∨ ∃ op next, pool.program thread = .call op next)
  · exact hfirst
  · intro pool caller now readings op next _ hpool _ _ thread
    by_cases hown : thread = caller
    · subst hown
      rw [advance_program_self]
      exact Program.settle_cases _ _
    · rw [advance_program_other _ _ _ _ _ _ hown]
      exact hpool thread

/-- Every call of the trace was the next one of its program, was allowed, and was
answered by the store, in a pool reached before. -/
theorem called (hreach : Reaches serve allowed first last) (hempty : first.trace = [])
    {later earlier : List (Event Thread Time Op Resp)} {event : Event Thread Time Op Resp}
    (hsplit : last.trace = later ++ event :: earlier) :
    ∃ pool next, Reaches serve allowed first pool ∧ pool.trace = earlier ∧
      pool.program event.thread = .call event.op next ∧ allowed pool event.thread event.op ∧
      event.resp = (serve event.instant event.op pool.store).1 := by
  -- The last step has made the latest event; every other one was made before it.
  induction hreach generalizing later with
  | refl =>
      rw [hempty] at hsplit
      simp at hsplit
  | tail hreach hlast ih =>
      obtain ⟨thread, now, readings, op, next, hprogram, hallowed⟩ := hlast
      cases later with
      | nil =>
          obtain ⟨rfl, rfl⟩ := List.cons.inj hsplit
          exact ⟨_, next, hreach, rfl, hprogram, hallowed, rfl⟩
      | cons _ later => exact ih (List.cons.inj hsplit).2

end Pool.Reaches

end Pool

end Skolva.Effect
