import Skolva.Effect.History
import Skolva.Effect.Session

/-! # Programs on parts of a shared store

A program on a part of the state runs as one on the whole state. Any number of programs that
share the whole state keep what each of their calls keeps, and what they do one after another is
one of the things they can do together.
-/

namespace Skolva.Effect

/-! ## Parts -/

/-- A part of a state that can be written back. What is read for it may also come from the rest
of the state. -/
structure Part (St Sub : Type) where
  get : St → Sub
  put : St → Sub → St
  put_get : ∀ st, put st (get st) = st
  put_put : ∀ st one other, put (put st one) other = put st other

namespace Part

variable {St Sub Time Op : Type} {Resp : Op → Type} {α : Type} (part : Part St Sub)
  (serve : Time → (op : Op) → Sub → Resp op × Sub)

/-- The store of the part as one of the whole state. -/
def serveWhole (now : Time) (op : Op) (st : St) : Resp op × St :=
  ((serve now op (part.get st)).1, part.put st (serve now op (part.get st)).2)

/-- What the store leaves of the part is what is read next. -/
def Keeps : Prop :=
  ∀ now op st, part.get (part.put st (serve now op (part.get st)).2) = (serve now op (part.get st)).2

variable {part serve}

theorem run_serveWhole (hkeeps : part.Keeps serve) (program : Program Time Op Resp α) (now : Time)
    (st : St) :
    program.run (part.serveWhole serve) now st =
      ((program.run serve now (part.get st)).1,
        part.put st (program.run serve now (part.get st)).2) := by
  induction program generalizing st with
  | done value => simp only [Program.run, part.put_get]
  | clock next ih => exact ih now st
  | call op next ih =>
      simp only [Program.run, serveWhole]
      rw [ih, hkeeps, part.put_put]

end Part

/-! ## Programs of a part -/

namespace Program

variable {Time Time' Op Op' : Type} {Resp : Op → Type} {Resp' : Op' → Type} {α St : Type}

/-- The program with its calls made as calls of another store, under another clock. -/
def lift (reading : Time' → Time) (into : Op → Op') (back : ∀ op, Resp' (into op) → Resp op) :
    Program Time Op Resp α → Program Time' Op' Resp' α
  | done value => done value
  | clock next => clock fun now => (next (reading now)).lift reading into back
  | call op next => call (into op) fun resp => (next (back op resp)).lift reading into back

variable {reading : Time' → Time} {into : Op → Op'} {back : ∀ op, Resp' (into op) → Resp op}

/-- It runs on a store that answers its calls as the store of the program does. -/
theorem run_lift {serve : Time → (op : Op) → St → Resp op × St}
    {serve' : Time' → (op : Op') → St → Resp' op × St} {now : Time'}
    (hresp : ∀ op st, back op (serve' now (into op) st).1 = (serve (reading now) op st).1)
    (hstate : ∀ op st, (serve' now (into op) st).2 = (serve (reading now) op st).2)
    (program : Program Time Op Resp α) (st : St) :
    (program.lift reading into back).run serve' now st = program.run serve (reading now) st := by
  induction program generalizing st with
  | done value => rfl
  | clock next ih => exact ih (reading now) st
  | call op next ih =>
      simp only [lift, run]
      rw [hresp, hstate]
      exact ih _ _

theorem uses_lift {allowed : Op' → Prop} {program : Program Time Op Resp α}
    (huses : program.Uses fun op => allowed (into op)) :
    (program.lift reading into back).Uses allowed := by
  induction program with
  | done value => trivial
  | clock next ih => exact fun now => ih (reading now) (huses (reading now))
  | call op next ih => exact ⟨huses.1, fun resp => ih (back op resp) (huses.2 (back op resp))⟩

theorem usesAt_lift {instants : Time → Prop} {instants' : Time' → Prop} {allowed : Op' → Prop}
    {program : Program Time Op Resp α} (hreading : ∀ now, instants' now → instants (reading now))
    (huses : program.UsesAt instants fun op => allowed (into op)) :
    (program.lift reading into back).UsesAt instants' allowed := by
  induction program with
  | done value => trivial
  | clock next ih =>
      exact fun now hnow => ih (reading now) (huses (reading now) (hreading now hnow))
  | call op next => exact ⟨huses.1, fun resp => uses_lift (huses.2 (back op resp))⟩

/-- The readings are the instants before the first call. -/
theorem UsesAt.settle {instants : Time → Prop} {allowed : Op → Prop}
    {program : Program Time Op Resp α} (huses : program.UsesAt instants allowed)
    {readings : Nat → Time} (hreadings : ∀ index, instants (readings index)) :
    (program.settle readings).Uses allowed := by
  induction program generalizing readings with
  | done value => trivial
  | clock next ih =>
      exact ih _ (huses _ (hreadings 0)) fun index => hreadings (index + 1)
  | call op next => exact huses

theorem Uses.settle {allowed : Op → Prop} {program : Program Time Op Resp α}
    (huses : program.Uses allowed) (readings : Nat → Time) :
    (program.settle readings).Uses allowed := by
  have hany : program.UsesAt (fun _ => True) allowed := huses.usesAt
  exact hany.settle fun _ => trivial

/-- A program that reads the same instant again and again runs at this instant. -/
theorem run_settle (serve : Time → (op : Op) → St → Resp op × St) (now : Time)
    (program : Program Time Op Resp α) (st : St) :
    (program.settle fun _ => now).run serve now st = program.run serve now st := by
  induction program generalizing st with
  | done value => rfl
  | clock next ih => exact ih now st
  | call op next => rfl

end Program

/-! ## Interleaved programs -/

namespace Pool.Reaches

variable {Thread Time Op : Type} {Resp : Op → Type} {α St : Type} [DecidableEq Thread]
  {serve : Time → (op : Op) → St → Resp op × St}
  {allowed : Pool Thread Time Op Resp α St → Thread → Op → Prop}
  {first last : Pool Thread Time Op Resp α St} {calls : Thread → Op → Prop}

theorem uses (hreach : Reaches serve allowed first last)
    (hfirst : ∀ thread, (first.program thread).Uses (calls thread)) (thread : Thread) :
    (last.program thread).Uses (calls thread) := by
  apply hreach.invariant (motive := fun pool =>
    ∀ thread, (pool.program thread).Uses (calls thread)) hfirst
  intro pool caller now readings op next _ hpool hprogram _ thread
  by_cases hown : thread = caller
  · subst hown
    have hcaller := hpool thread
    rw [hprogram] at hcaller
    -- What is left after the call is settled at once, up to the next call.
    rw [advance_program_self]
    exact (hcaller.2 _).settle readings
  · rw [advance_program_other _ _ _ _ _ _ hown]
    exact hpool thread

/-- What each call of the programs preserves, every interleaving preserves. -/
theorem preserved {motive : St → Prop} (hreach : Reaches serve allowed first last)
    (hfirst : ∀ thread, (first.program thread).Uses (calls thread))
    (hserve : ∀ thread now op store, calls thread op → motive store →
      motive (serve now op store).2)
    (hstore : motive first.store) : motive last.store := by
  apply hreach.invariant (motive := fun pool => motive pool.store) hstore
  intro pool caller now readings op next hpool hmotive hprogram _
  have hcaller := hpool.uses hfirst caller
  rw [hprogram] at hcaller
  exact hserve caller now op pool.store hcaller.1 hmotive

/-- The calls in the trace are calls that the programs of their threads make. -/
theorem mem_trace (hreach : Reaches serve allowed first last) (hempty : first.trace = [])
    (hfirst : ∀ thread, (first.program thread).Uses (calls thread)) :
    ∀ event ∈ last.trace, calls event.thread event.op := by
  apply hreach.invariant (motive := fun pool => ∀ event ∈ pool.trace, calls event.thread event.op)
  · rw [hempty]
    simp
  · intro pool caller now readings op next hpool htrace hprogram _
    have hcaller := hpool.uses hfirst caller
    rw [hprogram] at hcaller
    rw [advance_trace, List.forall_mem_cons]
    exact ⟨hcaller.1, htrace⟩

/-! ## One program after the other -/

/-- A thread can run to its end, alone and at one instant. -/
theorem alone (program : Program Time Op Resp α) {pool : Pool Thread Time Op Resp α St}
    {thread : Thread} {now : Time} (hprogram : pool.program thread = program.settle fun _ => now) :
    ∃ after : Pool Thread Time Op Resp α St, Reaches serve (fun _ _ _ => True) pool after ∧
      after.store = (program.run serve now pool.store).2 ∧
      after.program thread = .done (program.run serve now pool.store).1 ∧
      ∀ other ≠ thread, after.program other = pool.program other := by
  induction program generalizing pool with
  | done value => exact ⟨pool, .refl, rfl, hprogram, fun _ _ => rfl⟩
  | clock next ih => exact ih now hprogram
  | call op next ih =>
      have hcall := hprogram
      rw [Program.settle] at hcall
      obtain ⟨after, hreach, hstore, hown, hothers⟩ :=
        ih (serve now op pool.store).1 (pool.advance_program_self thread now (fun _ => now) op next)
      -- The first call is made here, and the rest by the induction from the state it leaves.
      refine ⟨after, ?_, hstore, hown, fun other hother => ?_⟩
      · exact .head (.call thread now _ op next hcall trivial) hreach
      · rw [hothers other hother, advance_program_other _ _ _ _ _ _ hother]

end Pool.Reaches

/-! ## Requests -/

/-- The programs of the requests before their first calls. -/
def launch {Thread Time Op Request Reply St : Type} {Resp : Op → Type}
    (program : Request → Program Time Op Resp Reply) (request : Thread → Request)
    (readings : Thread → Nat → Time) (start : St) : Pool Thread Time Op Resp Reply St :=
  .start start fun thread => (program (request thread)).settle (readings thread)

section Serial

variable {Request Reply St Op : Type} {Resp : Op → Type}
  {serve : Nat → (op : Op) → St → Resp op × St} {program : Request → Program Nat Op Resp Reply}
  {process : Nat → Request → St → Reply × St}
  {admissible : List (Entry Request Reply St) → Nat → Request → Prop} {start last : St}
  {history : List (Entry Request Reply St)}

/-- The threads have the requests of the history, each at the instant of its entry: the first
request is the one of thread 0. -/
def Threads (history : List (Entry Request Reply St)) (request : Nat → Request)
    (instant : Nat → Nat) : Prop :=
  ∀ later entry earlier, history = later ++ entry :: earlier →
    request earlier.length = entry.request ∧ instant earlier.length = entry.instant

/-- There are such requests, one after the other in the order of the history. -/
theorem threads_exist (other : Request) (history : List (Entry Request Reply St)) :
    ∃ request instant, Threads history request instant := by
  refine ⟨fun thread => (history.reverse[thread]?.map Entry.request).getD other,
    fun thread => (history.reverse[thread]?.map Entry.instant).getD 0, ?_⟩
  intro later entry earlier hsplit
  have hentry : history.reverse[earlier.length]? = some entry := by
    rw [hsplit, List.reverse_append, List.reverse_cons, List.append_assoc,
      ← List.length_reverse, List.getElem?_append_right (Nat.le_refl _), Nat.sub_self]
    rfl
  dsimp only
  rw [hentry]
  exact ⟨rfl, rfl⟩

/-- A serial run is one of the interleavings: the one in which each thread runs to its end
before the next one makes its first call. -/
theorem Serial.interleaved (hserial : Serial process admissible start history last)
    (hprocess : ∀ now request st, process now request st = (program request).run serve now st)
    {request : Nat → Request} {instant : Nat → Nat} (hthreads : Threads history request instant) :
    ∃ pool, Pool.Reaches serve (fun _ _ _ => True)
        (launch program request (fun thread _ => instant thread) start) pool ∧
      pool.store = last ∧
      (∀ later entry earlier, history = later ++ entry :: earlier →
        pool.program earlier.length = .done entry.reply) ∧
      ∀ thread, history.length ≤ thread →
        pool.program thread = (program (request thread)).settle fun _ => instant thread := by
  induction hserial with
  | nil => exact ⟨_, .refl, rfl, by simp, fun _ _ => rfl⟩
  | @cons history before now called hserial hadmissible ih =>
      obtain ⟨hcalled, hnow⟩ := hthreads [] _ history rfl
      obtain ⟨pool, hreach, rfl, hdone, hwaiting⟩ := ih fun later entry earlier hsplit =>
        hthreads (_ :: later) entry earlier (congrArg _ hsplit)
      -- The thread of the newest request has waited while the earlier ones ran to their ends.
      have hprogram := hwaiting history.length (Nat.le_refl _)
      rw [hcalled, hnow] at hprogram
      obtain ⟨after, halone, hstore, hown, hothers⟩ :
          ∃ after, Pool.Reaches serve (fun _ _ _ => True) pool after ∧
            after.store = ((program called).run serve now pool.store).2 ∧
            after.program history.length = .done ((program called).run serve now pool.store).1 ∧
            ∀ other ≠ history.length, after.program other = pool.program other :=
        Pool.Reaches.alone (program called) hprogram
      refine ⟨after, hreach.trans halone, ?_, ?_, ?_⟩
      · rw [hstore, hprocess]
      · intro later entry earlier hsplit
        cases later with
        | nil =>
            obtain ⟨rfl, rfl⟩ := List.cons.inj hsplit
            rw [hown, hprocess]
        | cons _ later =>
            have hrest : history = later ++ entry :: earlier := (List.cons.inj hsplit).2
            have hlength : earlier.length ≠ history.length := by
              rw [hrest, List.length_append, List.length_cons]
              omega
            rw [hothers _ hlength]
            exact hdone later entry earlier hrest
      · intro thread hthread
        rw [List.length_cons] at hthread
        have hother : thread ≠ history.length := by omega
        rw [hothers _ hother]
        exact hwaiting thread (by omega)

end Serial

end Skolva.Effect
