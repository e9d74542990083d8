import Skolva.Effect.Session
import Mathlib.Order.Monotone.Basic

/-! # Interleaved programs under one clock

In a pool every clock reading can have any result. Here the clock does not go back:
calls reach the store one after the other, and a thread that has read the clock makes
its next call no earlier than that.
-/

namespace Skolva.Effect

variable {Thread Time Op : Type} {Resp : Op → Type} {α β σ St : Type} [DecidableEq Thread]
  [Preorder Time]

/-! ## Programs that read a clock -/

namespace Program

variable (session : Session Op Resp σ)

/-- From this state and instant on the program makes allowed calls only, and its results
are final, whatever the responses and the times at which it gets on. -/
def FollowsFrom (final : σ → Time → α → Prop) : Program Time Op Resp α → σ → Time → Prop
  | done value, state, instant => final state instant value
  | clock next, state, instant =>
      ∀ reading, instant ≤ reading → (next reading).FollowsFrom final state reading
  | call op next, state, instant =>
      session.allowed state op ∧ ∀ resp later, instant ≤ later →
        (next resp).FollowsFrom final (session.after state op resp) later

variable {session} {final : σ → Time → α → Prop} {state : σ} {instant : Time}

theorem followsFrom_bind {final : σ → Time → β → Prop} {program : Program Time Op Resp α}
    {rest : α → Program Time Op Resp β}
    (hprogram : program.FollowsFrom session
      (fun state instant value => (rest value).FollowsFrom session final state instant)
      state instant) :
    (program >>= rest).FollowsFrom session final state instant := by
  change (program.bind rest).FollowsFrom session final state instant
  induction program generalizing state instant with
  | done value => exact hprogram
  | clock next ih => exact fun reading hreading => ih reading (hprogram reading hreading)
  | call op next ih =>
      exact ⟨hprogram.1, fun resp later hlater => ih resp (hprogram.2 resp later hlater)⟩

/-- A call and what follows it. -/
theorem followsFrom_perform {op : Op} {rest : Resp op → Program Time Op Resp α}
    (hallowed : session.allowed state op)
    (hrest : ∀ resp later, instant ≤ later →
      (rest resp).FollowsFrom session final (session.after state op resp) later) :
    (perform op >>= rest).FollowsFrom session final state instant :=
  followsFrom_bind ⟨hallowed, hrest⟩

/-- A clock reading and what follows it. -/
theorem followsFrom_readClock {rest : Time → Program Time Op Resp α}
    (hrest : ∀ reading, instant ≤ reading →
      (rest reading).FollowsFrom session final state reading) :
    (readClock >>= rest).FollowsFrom session final state instant :=
  followsFrom_bind hrest

theorem followsFrom_map {final : σ → Time → β → Prop} {f : α → β}
    {program : Program Time Op Resp α}
    (hprogram : program.FollowsFrom session
      (fun state instant value => final state instant (f value)) state instant) :
    (f <$> program).FollowsFrom session final state instant := by
  rw [← bind_pure_comp]
  exact followsFrom_bind hprogram

theorem FollowsFrom.imp {final' : σ → Time → α → Prop} {program : Program Time Op Resp α}
    (hprogram : program.FollowsFrom session final state instant)
    (himp : ∀ state instant value, final state instant value → final' state instant value) :
    program.FollowsFrom session final' state instant := by
  induction program generalizing state instant with
  | done value => exact himp state instant value hprogram
  | clock next ih => exact fun reading hreading => ih reading (hprogram reading hreading)
  | call op next ih =>
      exact ⟨hprogram.1, fun resp later hlater => ih resp (hprogram.2 resp later hlater)⟩

/-- What may happen from an instant on may happen later. -/
theorem FollowsFrom.later {final : σ → α → Prop} {program : Program Time Op Resp α}
    (hprogram : program.FollowsFrom session (fun state _ => final state) state instant)
    {later : Time} (hlater : instant ≤ later) :
    program.FollowsFrom session (fun state _ => final state) state later := by
  cases program with
  | done value => exact hprogram
  | clock next => exact fun reading hreading => hprogram reading (hlater.trans hreading)
  | call op next =>
      exact ⟨hprogram.1, fun resp next hnext => hprogram.2 resp next (hlater.trans hnext)⟩

/-- Readings of a clock that does not go back lead to the next call. -/
theorem FollowsFrom.settle {final : σ → α → Prop} {program : Program Time Op Resp α}
    (hprogram : program.FollowsFrom session (fun state _ => final state) state instant)
    {readings : Nat → Time} (hreadings : Monotone readings) (hfirst : instant ≤ readings 0)
    {later : Time} (hlater : ∀ index, readings index ≤ later) :
    (program.settle readings).FollowsFrom session (fun state _ => final state) state later := by
  induction program generalizing instant readings with
  | done value => exact hprogram
  | clock next ih =>
      have hrest : Monotone fun index => readings (index + 1) :=
        fun one other hle => hreadings (Nat.succ_le_succ hle)
      exact ih (readings 0) (hprogram (readings 0) hfirst) hrest (hreadings (Nat.zero_le 1))
        fun index => hlater (index + 1)
  | call op next => exact hprogram.later (hfirst.trans (hlater 0))

end Program

/-! ## Pools under a clock -/

namespace Pool

variable (serve : Time → (op : Op) → St → Resp op × St)
  (allowed : Pool Thread Time Op Resp α St → Thread → Op → Prop)

/-- The pools an interleaving can come to, with the instant of the latest call and for each
thread the instant from which on it can make its next one. -/
inductive Clocked (first : Pool Thread Time Op Resp α St) (opening : Time) :
    Pool Thread Time Op Resp α St → Time → (Thread → Time) → Prop where
  | start : Clocked first opening first opening (fun _ => opening)
  | call {pool : Pool Thread Time Op Resp α St} {latest : Time} {free : Thread → Time}
      (hpool : Clocked first opening pool latest free) (thread : Thread) (now : Time)
      (readings : Nat → Time) (later : Time) (op : Op) (next : Resp op → Program Time Op Resp α)
      (hprogram : pool.program thread = .call op next) (hallowed : allowed pool thread op)
      (hlatest : latest ≤ now) (hfree : free thread ≤ now) (hreadings : Monotone readings)
      (hfirst : now ≤ readings 0) (hlater : ∀ index, readings index ≤ later) :
      Clocked first opening (pool.advance serve thread now readings op next) now
        (Function.update free thread later)

variable {serve allowed} {first last pool : Pool Thread Time Op Resp α St} {opening latest : Time}
  {free : Thread → Time}

theorem Clocked.reaches (hclocked : Clocked serve allowed first opening last latest free) :
    Reaches serve allowed first last := by
  induction hclocked with
  | start => exact .refl
  | call _ thread now readings _ op next hprogram hallowed _ _ _ _ _ ih =>
      exact ih.tail (.call thread now readings op next hprogram hallowed)

/-- Under the clock every thread keeps to its session. -/
theorem Clocked.follows {session : Thread → Session Op Resp σ} {final : Thread → σ → α → Prop}
    (hclocked : Clocked serve allowed first opening last latest free) (hempty : first.trace = [])
    (hstart : ∀ thread, (first.program thread).FollowsFrom (session thread)
      (fun state _ => final thread state) (session thread).first opening) (thread : Thread) :
    (last.program thread).FollowsFrom (session thread) (fun state _ => final thread state)
      ((session thread).along thread last.trace) (free thread) := by
  induction hclocked generalizing thread with
  | start =>
      rw [hempty]
      exact hstart thread
  | call _ caller now readings later op next hprogram _ _ hfree hreadings hfirst hlater ih =>
      by_cases hown : caller = thread
      · subst hown
        have hcaller := ih caller
        rw [hprogram] at hcaller
        rw [advance_program_self, Session.along_advance_self, Function.update_self]
        exact (hcaller.2 _ now hfree).settle hreadings hfirst hlater
      · have hother : thread ≠ caller := Ne.symm hown
        rw [advance_program_other _ _ _ _ _ _ hother, Function.update_of_ne hother,
          Session.along_advance_other _ _ _ _ _ _ hother]
        exact ih thread

/-- What holds at the start and is preserved by every step holds throughout. -/
theorem Clocked.invariant {motive : Pool Thread Time Op Resp α St → Prop}
    (hclocked : Clocked serve allowed first opening last latest free) (hfirst : motive first)
    (hstep : ∀ pool latest free thread now readings op next,
      Clocked serve allowed first opening pool latest free → motive pool →
      pool.program thread = .call op next → allowed pool thread op →
      motive (pool.advance serve thread now readings op next)) : motive last := by
  induction hclocked with
  | start => exact hfirst
  | call hpool thread now readings _ op next hprogram hallowed _ _ _ _ _ ih =>
      exact hstep _ _ _ thread now readings op next hpool ih hprogram hallowed

/-- A call that is known, while the clock stands still. -/
theorem Clocked.turn (hclocked : Clocked serve allowed first opening pool latest free)
    (thread : Thread) {now : Time} (hlatest : latest ≤ now) (hfree : ∀ other, free other ≤ now)
    {op : Op} {rest : Resp op → Program Time Op Resp α}
    (hprogram : pool.program thread = .call op rest) (hallowed : allowed pool thread op) :
    ∃ free', Clocked serve allowed first opening (pool.next serve thread now) now free' ∧
      ∀ other, free' other ≤ now := by
  have hnext : pool.next serve thread now = pool.advance serve thread now (fun _ => now) op rest := by
    unfold Pool.next
    rw [hprogram]
  refine ⟨Function.update free thread now, ?_, fun other => ?_⟩
  · rw [hnext]
    exact .call hclocked thread now (fun _ => now) now op rest hprogram hallowed hlatest
      (hfree thread) monotone_const le_rfl fun _ => le_rfl
  · by_cases hown : other = thread
    · simp [hown]
    · simpa [hown] using hfree other

/-- Calls in a given order, while the clock stands still. -/
theorem Clocked.schedule (hclocked : Clocked serve allowed first opening pool latest free)
    {now : Time} (hlatest : latest ≤ now) (hfree : ∀ other, free other ≤ now)
    (hallowed : ∀ pool thread op, allowed pool thread op) (order : List Thread) :
    ∃ latest' free', Clocked serve allowed first opening
      (pool.schedule serve (order.map (·, now))) latest' free' := by
  induction order generalizing pool latest free with
  | nil => exact ⟨latest, free, hclocked⟩
  | cons thread order ih =>
      by_cases hcall : ∃ op rest, pool.program thread = .call op rest
      · obtain ⟨op, rest, hprogram⟩ := hcall
        obtain ⟨free', hnext, hfree'⟩ := hclocked.turn thread hlatest hfree hprogram
          (hallowed pool thread op)
        exact ih hnext le_rfl hfree'
      · have hsame : pool.next serve thread now = pool := by
          unfold Pool.next
          split
          next op rest hprogram => exact absurd ⟨op, rest, hprogram⟩ hcall
          next => rfl
        change ∃ latest' free', Clocked _ _ _ _ ((pool.next serve thread now).schedule serve _) _ _
        rw [hsame]
        exact ih hclocked hlatest hfree

end Pool

end Skolva.Effect
