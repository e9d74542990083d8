import Skolva.Effect.Program
import Mathlib.Logic.Relation

/-! # Interleaved programs

A pool runs any number of programs against one store. A step lets one of them
perform its next call and then work locally up to the call after; each clock
reading on the way can have any result. The trace records the calls in the order
in which they reached the store.
-/

namespace Skolva.Effect

/-- One call of one thread, with its response. -/
structure Event (Thread Time Op : Type) (Resp : Op → Type) where
  thread : Thread
  instant : Time
  op : Op
  resp : Resp op

/-- The shared store, what is left of each program, and the calls so far, latest
first. -/
structure Pool (Thread Time Op : Type) (Resp : Op → Type) (α St : Type) where
  store : St
  program : Thread → Program Time Op Resp α
  trace : List (Event Thread Time Op Resp)

namespace Pool

variable {Thread Time Op : Type} {Resp : Op → Type} {α St : Type} [DecidableEq Thread]

/-- The pool before the first call. -/
def start (store : St) (program : Thread → Program Time Op Resp α) :
    Pool Thread Time Op Resp α St :=
  ⟨store, program, []⟩

/-- The call `op` of `thread` reaches the store, and `next` goes on locally. -/
def advance (serve : Time → (op : Op) → St → Resp op × St) (pool : Pool Thread Time Op Resp α St)
    (thread : Thread) (now : Time) (readings : Nat → Time) (op : Op)
    (next : Resp op → Program Time Op Resp α) : Pool Thread Time Op Resp α St where
  store := (serve now op pool.store).2
  program := Function.update pool.program thread
    ((next (serve now op pool.store).1).settle readings)
  trace := ⟨thread, now, op, (serve now op pool.store).1⟩ :: pool.trace

/-- One step of some thread, out of the calls `allowed` at the pool it starts in. -/
inductive Step (serve : Time → (op : Op) → St → Resp op × St)
    (allowed : Pool Thread Time Op Resp α St → Thread → Op → Prop)
    (pool : Pool Thread Time Op Resp α St) : Pool Thread Time Op Resp α St → Prop where
  | call (thread : Thread) (now : Time) (readings : Nat → Time) (op : Op)
      (next : Resp op → Program Time Op Resp α) (hprogram : pool.program thread = .call op next)
      (hallowed : allowed pool thread op) :
      Step serve allowed pool (pool.advance serve thread now readings op next)

/-- The pools an interleaving can come to. -/
def Reaches (serve : Time → (op : Op) → St → Resp op × St)
    (allowed : Pool Thread Time Op Resp α St → Thread → Op → Prop)
    (first last : Pool Thread Time Op Resp α St) : Prop :=
  Relation.ReflTransGen (Step serve allowed) first last

variable {serve : Time → (op : Op) → St → Resp op × St}
variable {allowed : Pool Thread Time Op Resp α St → Thread → Op → Prop}

/-- What holds at the start and is preserved by every step holds throughout. -/
theorem Reaches.invariant {motive : Pool Thread Time Op Resp α St → Prop}
    {first last : Pool Thread Time Op Resp α St} (hreach : Reaches serve allowed first last)
    (hfirst : motive first)
    (hstep : ∀ pool thread now readings op next, Reaches serve allowed first pool → motive pool →
      pool.program thread = .call op next → allowed pool thread op →
      motive (pool.advance serve thread now readings op next)) : motive last := by
  induction hreach with
  | refl => exact hfirst
  | tail hreach hlast ih =>
      obtain ⟨thread, now, readings, op, next, hprogram, hallowed⟩ := hlast
      exact hstep _ thread now readings op next hreach ih hprogram hallowed

section Advance

variable (pool : Pool Thread Time Op Resp α St) (thread : Thread) (now : Time)
  (readings : Nat → Time) (op : Op) (next : Resp op → Program Time Op Resp α)

@[simp] theorem advance_store :
    (pool.advance serve thread now readings op next).store = (serve now op pool.store).2 := rfl

@[simp] theorem advance_trace :
    (pool.advance serve thread now readings op next).trace =
      ⟨thread, now, op, (serve now op pool.store).1⟩ :: pool.trace := rfl

@[simp] theorem advance_program_self :
    (pool.advance serve thread now readings op next).program thread =
      (next (serve now op pool.store).1).settle readings :=
  Function.update_self ..

theorem advance_program_other {other : Thread} (hother : other ≠ thread) :
    (pool.advance serve thread now readings op next).program other = pool.program other :=
  Function.update_of_ne hother ..

end Advance

/-! ## Given schedules -/

/-- Let a thread perform its next call, with the clock standing still meanwhile. -/
def next (serve : Time → (op : Op) → St → Resp op × St) (pool : Pool Thread Time Op Resp α St)
    (thread : Thread) (now : Time) : Pool Thread Time Op Resp α St :=
  match pool.program thread with
  | .call op rest => pool.advance serve thread now (fun _ => now) op rest
  | _ => pool

/-- Let the threads perform their calls in this order, the first at the head. -/
def schedule (serve : Time → (op : Op) → St → Resp op × St) (first : Pool Thread Time Op Resp α St)
    (order : List (Thread × Time)) : Pool Thread Time Op Resp α St :=
  order.foldl (fun pool turn => pool.next serve turn.1 turn.2) first

theorem Reaches.next {first pool : Pool Thread Time Op Resp α St}
    (hreach : Reaches serve allowed first pool) (thread : Thread) (now : Time)
    (hallowed : ∀ op rest, pool.program thread = .call op rest → allowed pool thread op) :
    Reaches serve allowed first (pool.next serve thread now) := by
  unfold Pool.next
  split
  next op rest hprogram =>
      exact hreach.tail (.call thread now (fun _ => now) op rest hprogram (hallowed op rest hprogram))
  next => exact hreach

/-- The same for a call that is known. -/
theorem Reaches.turn {first pool : Pool Thread Time Op Resp α St}
    (hreach : Reaches serve allowed first pool) (thread : Thread) (now : Time) {op : Op}
    {rest : Resp op → Program Time Op Resp α} (hprogram : pool.program thread = .call op rest)
    (hallowed : allowed pool thread op) :
    Reaches serve allowed first (pool.next serve thread now) := by
  refine hreach.next thread now fun called resume hcalled => ?_
  obtain ⟨rfl, -⟩ := Program.call.inj (hprogram.symm.trans hcalled)
  exact hallowed

theorem Reaches.schedule {first pool : Pool Thread Time Op Resp α St}
    (hreach : Reaches serve allowed first pool)
    (hallowed : ∀ pool thread op, allowed pool thread op) (order : List (Thread × Time)) :
    Reaches serve allowed first (pool.schedule serve order) := by
  induction order generalizing pool with
  | nil => exact hreach
  | cons turn order ih =>
      exact ih (hreach.next turn.1 turn.2 fun op _ _ => hallowed pool turn.1 op)

end Pool

end Skolva.Effect
