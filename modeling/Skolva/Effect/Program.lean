import Mathlib.Logic.Function.Basic

/-! # Programs over calls

A sequential program reads the clock and performs calls on a shared store, one
after the other. It is kept as a tree: what to do next is a function of the
response to the call before. The same program can then be run alone, against a
store whose calls fail, or one call at a time between the calls of others.
-/

namespace Skolva.Effect

/-- A program with result `α` whose call `op` is answered by a `Resp op`. -/
inductive Program (Time : Type) (Op : Type) (Resp : Op → Type) (α : Type) : Type where
  | done (value : α)
  | clock (next : Time → Program Time Op Resp α)
  | call (op : Op) (next : Resp op → Program Time Op Resp α)

namespace Program

variable {Time Op : Type} {Resp : Op → Type} {α β γ : Type}

def bind : Program Time Op Resp α → (α → Program Time Op Resp β) → Program Time Op Resp β
  | done value, rest => rest value
  | clock next, rest => clock fun now => (next now).bind rest
  | call op next, rest => call op fun resp => (next resp).bind rest

instance : Monad (Program Time Op Resp) where
  pure := done
  bind := bind

theorem bind_done (program : Program Time Op Resp α) : program.bind done = program := by
  induction program with
  | done value => rfl
  | clock next ih => simp only [bind, ih]
  | call op next ih => simp only [bind, ih]

theorem bind_assoc (program : Program Time Op Resp α) (first : α → Program Time Op Resp β)
    (second : β → Program Time Op Resp γ) :
    (program.bind first).bind second = program.bind fun value => (first value).bind second := by
  induction program with
  | done value => rfl
  | clock next ih => simp only [bind, ih]
  | call op next ih => simp only [bind, ih]

instance : LawfulMonad (Program Time Op Resp) :=
  LawfulMonad.mk' _ bind_done (fun _ _ => rfl) bind_assoc

/-- The program that performs one call and returns its response. -/
def perform (op : Op) : Program Time Op Resp (Resp op) := call op done

/-- The program that reads the clock. -/
def readClock : Program Time Op Resp Time := clock done

/-! ## Running a program alone -/

variable {St : Type}

/-- Run a program to its end at one instant. The store answers a call by `serve`. -/
def run (serve : Time → (op : Op) → St → Resp op × St) (now : Time) :
    Program Time Op Resp α → St → α × St
  | done value, store => (value, store)
  | clock next, store => (next now).run serve now store
  | call op next, store =>
      (next (serve now op store).1).run serve now (serve now op store).2

variable (serve : Time → (op : Op) → St → Resp op × St) (now : Time)

@[simp] theorem run_pure (value : α) (store : St) :
    (pure value : Program Time Op Resp α).run serve now store = (value, store) := rfl

@[simp] theorem run_bind (program : Program Time Op Resp α)
    (rest : α → Program Time Op Resp β) (store : St) :
    (program >>= rest).run serve now store =
      (rest (program.run serve now store).1).run serve now (program.run serve now store).2 := by
  change (program.bind rest).run serve now store = _
  induction program generalizing store with
  | done value => rfl
  | clock next ih => exact ih _ _
  | call op next ih => exact ih _ _

@[simp] theorem run_map (f : α → β) (program : Program Time Op Resp α) (store : St) :
    (f <$> program).run serve now store =
      (f (program.run serve now store).1, (program.run serve now store).2) := by
  rw [← bind_pure_comp, run_bind]
  rfl

@[simp] theorem run_perform (op : Op) (store : St) :
    (perform op : Program Time Op Resp _).run serve now store = serve now op store := rfl

@[simp] theorem run_readClock (store : St) :
    (readClock : Program Time Op Resp _).run serve now store = (now, store) := rfl

/-- Run a program, with the store changed by others once the first call has been
answered. -/
def runInterrupted (others : St → St) : Program Time Op Resp α → St → α × St
  | done value, store => (value, store)
  | clock next, store => (next now).runInterrupted others store
  | call op next, store =>
      (next (serve now op store).1).run serve now (others (serve now op store).2)

theorem runInterrupted_perform (others : St → St) (op : Op) (rest : Resp op → Program Time Op Resp α)
    (store : St) :
    (perform op >>= rest).runInterrupted serve now others store =
      (rest (serve now op store).1).run serve now (others (serve now op store).2) := rfl

/-! ## The calls a program can make -/

/-- Every call the program can come to, whatever the responses, is allowed. -/
def Uses (allowed : Op → Prop) : Program Time Op Resp α → Prop
  | done _ => True
  | clock next => ∀ instant, (next instant).Uses allowed
  | call op next => allowed op ∧ ∀ resp, (next resp).Uses allowed

variable {allowed : Op → Prop}

theorem uses_pure (value : α) : (pure value : Program Time Op Resp α).Uses allowed := trivial

theorem uses_perform {op : Op} (hop : allowed op) :
    (perform op : Program Time Op Resp _).Uses allowed := ⟨hop, fun _ => trivial⟩

theorem uses_readClock : (readClock : Program Time Op Resp Time).Uses allowed :=
  fun _ => trivial

theorem uses_bind {program : Program Time Op Resp α} {rest : α → Program Time Op Resp β}
    (hprogram : program.Uses allowed) (hrest : ∀ value, (rest value).Uses allowed) :
    (program >>= rest).Uses allowed := by
  change (program.bind rest).Uses allowed
  induction program with
  | done value => exact hrest value
  | clock next ih => exact fun instant => ih instant (hprogram instant)
  | call op next ih => exact ⟨hprogram.1, fun resp => ih resp (hprogram.2 resp)⟩

theorem uses_map {f : α → β} {program : Program Time Op Resp α} (hprogram : program.Uses allowed) :
    (f <$> program).Uses allowed := by
  rw [← bind_pure_comp]
  exact uses_bind hprogram fun _ => uses_pure _

theorem uses_of_forall (hallowed : ∀ op, allowed op) (program : Program Time Op Resp α) :
    program.Uses allowed := by
  induction program with
  | done value => trivial
  | clock next ih => exact ih
  | call op next ih => exact ⟨hallowed op, ih⟩

theorem Uses.imp {allowed other : Op → Prop} (himp : ∀ op, allowed op → other op)
    {program : Program Time Op Resp α} (huses : program.Uses allowed) : program.Uses other := by
  induction program with
  | done value => trivial
  | clock next ih => exact fun instant => ih instant (huses instant)
  | call op next ih => exact ⟨himp op huses.1, fun resp => ih resp (huses.2 resp)⟩

theorem uses_of_map {f : α → β} {program : Program Time Op Resp α}
    (huses : (f <$> program).Uses allowed) : program.Uses allowed := by
  rw [← bind_pure_comp] at huses
  change (program.bind _).Uses allowed at huses
  induction program with
  | done value => trivial
  | clock next ih => exact fun instant => ih instant (huses instant)
  | call op next ih => exact ⟨huses.1, fun resp => ih resp (huses.2 resp)⟩

/-- So it does if the clock shows one of these instants before the first call. -/
def UsesAt (instants : Time → Prop) (allowed : Op → Prop) : Program Time Op Resp α → Prop
  | done _ => True
  | clock next => ∀ instant, instants instant → (next instant).UsesAt instants allowed
  | call op next => allowed op ∧ ∀ resp, (next resp).Uses allowed

section UsesAt

variable {instants : Time → Prop}

theorem Uses.usesAt {program : Program Time Op Resp α} (huses : program.Uses allowed) :
    program.UsesAt instants allowed := by
  induction program with
  | done value => trivial
  | clock next ih => exact fun instant _ => ih instant (huses instant)
  | call op next => exact huses

theorem UsesAt.uses {program : Program Time Op Resp α}
    (huses : program.UsesAt (fun _ => True) allowed) : program.Uses allowed := by
  induction program with
  | done value => trivial
  | clock next ih => exact fun instant => ih instant (huses instant trivial)
  | call op next => exact huses

theorem usesAt_map {f : α → β} {program : Program Time Op Resp α}
    (hprogram : program.UsesAt instants allowed) : (f <$> program).UsesAt instants allowed := by
  rw [← bind_pure_comp]
  change (program.bind _).UsesAt instants allowed
  induction program with
  | done value => trivial
  | clock next ih => exact fun instant hinstant => ih instant (hprogram instant hinstant)
  | call op next => exact ⟨hprogram.1, fun resp => uses_bind (hprogram.2 resp) fun _ => trivial⟩

theorem UsesAt.imp {other : Op → Prop} (himp : ∀ op, allowed op → other op)
    {program : Program Time Op Resp α} (huses : program.UsesAt instants allowed) :
    program.UsesAt instants other := by
  induction program with
  | done value => trivial
  | clock next ih => exact fun instant hinstant => ih instant (huses instant hinstant)
  | call op next => exact ⟨himp op huses.1, fun resp => (huses.2 resp).imp himp⟩

end UsesAt

/-- What every allowed call preserves, a run of the program preserves. -/
theorem run_preserves {motive : St → Prop} {program : Program Time Op Resp α}
    (huses : program.Uses allowed)
    (hserve : ∀ op store, allowed op → motive store → motive (serve now op store).2)
    {store : St} (hstore : motive store) : motive (program.run serve now store).2 := by
  induction program generalizing store with
  | done value => exact hstore
  | clock next ih => exact ih now (huses now) hstore
  | call op next ih => exact ih _ (huses.2 _) (hserve op store huses.1 hstore)

/-- So with what every call preserves. -/
theorem run_invariant {motive : St → Prop} (program : Program Time Op Resp α)
    (hserve : ∀ op store, motive store → motive (serve now op store).2)
    {store : St} (hstore : motive store) : motive (program.run serve now store).2 := by
  have huses : program.Uses fun _ => True := uses_of_forall (fun _ => trivial) program
  exact run_preserves serve now huses (fun op store _ => hserve op store) hstore

/-! ## A store whose calls fail -/

/-- A store together with the number of calls it has been sent. Where `fault`
gives an answer to a call, that is the answer and the store stays as it is. -/
def withFaults (fault : Nat → (op : Op) → Option (Resp op)) :
    Time → (op : Op) → Nat × St → Resp op × Nat × St :=
  fun now op store =>
    match fault store.1 op with
    | some resp => (resp, store.1 + 1, store.2)
    | none => ((serve now op store.2).1, store.1 + 1, (serve now op store.2).2)

/-- Without faults only the count is added. -/
theorem run_withFaults_none (program : Program Time Op Resp α) (index : Nat) (store : St) :
    ∃ count, program.run (withFaults serve fun _ _ => none) now (index, store) =
      ((program.run serve now store).1, count, (program.run serve now store).2) := by
  induction program generalizing index store with
  | done value => exact ⟨index, rfl⟩
  | clock next ih => exact ih now index store
  | call op next ih => exact ih _ (index + 1) _

/-! ## A record of the calls -/

/-- A store together with the calls it has been sent, latest first. -/
def logged : Time → (op : Op) → List Op × St → Resp op × List Op × St :=
  fun now op store =>
    ((serve now op store.2).1, op :: store.1, (serve now op store.2).2)

/-! ## Programs over more calls -/

variable {Op' : Type} {Resp' : Op' → Type}

/-- The program with each of its calls made as a call of another store. -/
def embed (into : Op → Op') (back : ∀ op, Resp' (into op) → Resp op) :
    Program Time Op Resp α → Program Time Op' Resp' α
  | done value => done value
  | clock next => clock fun now => (next now).embed into back
  | call op next => call (into op) fun resp => (next (back op resp)).embed into back

/-! ## Local steps -/

/-- Answer the clock readings at the head of a program, up to its next call. The
readings are independent of each other. -/
def settle : Program Time Op Resp α → (readings : Nat → Time) → Program Time Op Resp α
  | clock next, readings => (next (readings 0)).settle fun index => readings (index + 1)
  | done value, _ => done value
  | call op next, _ => call op next

end Program

end Skolva.Effect
