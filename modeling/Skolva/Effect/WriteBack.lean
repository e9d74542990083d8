import Skolva.Effect.Session

/-! # Requests that write back what they have read

A request reads a value in one call and stores one in a later call: the value that it
supplies or, where it supplies none, the value that it has read. The laws below say when
the stored value is always the one that was supplied last. What has to be excluded is that
another value is supplied between the two calls of a request that supplies none.
-/

namespace Skolva.Effect

/-- How the calls of such a request deal with the value. -/
structure WriteBack (Op : Type) (Resp : Op → Type) (V : Type) where
  reads : Op → Prop
  found : (op : Op) → Resp op → Option V
  writes : Op → Option V
  committed : (op : Op) → Resp op → Bool

namespace WriteBack

variable {Thread Time Op V : Type} {Resp : Op → Type} {α St : Type}
variable (calls : WriteBack Op Resp V)

/-- The answers of the store are what the value calls for. -/
structure Lawful (serve : Time → (op : Op) → St → Resp op × St) (value : St → Option V) :
    Prop where
  reads_writes : ∀ op, calls.reads op → calls.writes op = none
  reads_value : ∀ now op store, calls.reads op → value (serve now op store).2 = value store
  found_value : ∀ now op store read, calls.reads op →
    calls.found op (serve now op store).1 = some read → value store = some read
  written : ∀ now op store new, calls.writes op = some new →
    (calls.committed op (serve now op store).1 = false ∧
      value (serve now op store).2 = value store) ∨
    (calls.committed op (serve now op store).1 = true ∧ (value store).isSome ∧
      value (serve now op store).2 = some new)

/-- A request that supplies this value, if any. Its state is the value it has read. -/
def session (supplied : Option V) : Session Op Resp (Option V) where
  first := none
  allowed read op := calls.reads op ∨
    ∃ old, read = some old ∧ calls.writes op = some (supplied.getD old)
  after _ op resp :=
    match calls.writes op with
    | some _ => none
    | none => calls.found op resp

variable (supplied : Thread → Option V)

/-- The value that a call has supplied. -/
def supply (event : Event Thread Time Op Resp) : Option V :=
  if (calls.writes event.op).isSome ∧ calls.committed event.op event.resp = true then
    supplied event.thread
  else none

/-- The value that was supplied last. -/
def lastSupplied (trace : List (Event Thread Time Op Resp)) : Option V :=
  trace.findSome? (calls.supply supplied)

/-- The value of which a trace tells, which is the initial one if none was supplied. -/
def told (initial : Option V) (trace : List (Event Thread Time Op Resp)) : Option V :=
  initial.map fun value => (calls.lastSupplied supplied trace).getD value

section Pool

variable [DecidableEq Thread]

/-- Where a request that supplies no value is about to write, the value supplied last since
its last call, if there is one, is the value that stood at that call. -/
def Fresh (initial : Option V) (pool : Pool Thread Time Op Resp α St) (thread : Thread)
    (op : Op) : Prop :=
  supplied thread = none → (calls.writes op).isSome → ∀ new,
    calls.lastSupplied supplied (pool.trace.takeWhile fun event => event.thread ≠ thread) =
      some new →
    calls.told supplied initial (pool.trace.dropWhile fun event => event.thread ≠ thread) =
      some new

/-- The stored value is always the one supplied last, or the first one, and a request that
supplies none does not change it. -/
def NoLostUpdate (serve : Time → (op : Op) → St → Resp op × St) (value : St → Option V)
    (allowed : Pool Thread Time Op Resp α St → Thread → Op → Prop)
    (first : Pool Thread Time Op Resp α St) : Prop :=
  ∀ pool, Pool.Reaches serve allowed first pool →
    value pool.store = calls.told supplied (value first.store) pool.trace ∧
    ∀ thread now readings op next, pool.program thread = .call op next →
      allowed pool thread op → supplied thread = none →
      value (pool.advance serve thread now readings op next).store = value pool.store

end Pool

/-- A store whose calls fail answers lawfully as well. -/
theorem Lawful.withFaults {calls : WriteBack Op Resp V}
    {serve : Time → (op : Op) → St → Resp op × St} {value : St → Option V}
    (hlawful : calls.Lawful serve value) {fault : Nat → (op : Op) → Option (Resp op)}
    (hfound : ∀ index op resp, fault index op = some resp → calls.found op resp = none)
    (hcommitted : ∀ index op resp, fault index op = some resp → calls.committed op resp = false) :
    calls.Lawful (Program.withFaults serve fault) fun store => value store.2 where
  reads_writes := hlawful.reads_writes
  reads_value := by
    intro now op store hreads
    unfold Program.withFaults
    split
    · rfl
    · exact hlawful.reads_value now op store.2 hreads
  found_value := by
    intro now op store read hreads hread
    unfold Program.withFaults at hread
    split at hread
    next resp hfault => simp [hfound store.1 op resp hfault] at hread
    next => exact hlawful.found_value now op store.2 read hreads hread
  written := by
    intro now op store new hwrites
    unfold Program.withFaults
    split
    next resp hfault => exact Or.inl ⟨hcommitted store.1 op resp hfault, rfl⟩
    next => exact hlawful.written now op store.2 new hwrites

/-! ## The value supplied last -/

variable {calls supplied} {event : Event Thread Time Op Resp}
  {trace : List (Event Thread Time Op Resp)}

theorem lastSupplied_of_supply {new : V} (hsupply : calls.supply supplied event = some new) :
    calls.lastSupplied supplied (event :: trace) = some new := by
  simp [lastSupplied, hsupply]

theorem lastSupplied_of_not (hsupply : calls.supply supplied event = none) :
    calls.lastSupplied supplied (event :: trace) = calls.lastSupplied supplied trace := by
  simp [lastSupplied, hsupply]

theorem told_of_not {initial : Option V} (hsupply : calls.supply supplied event = none) :
    calls.told supplied initial (event :: trace) = calls.told supplied initial trace := by
  rw [told, lastSupplied_of_not hsupply, told]

theorem supply_of_reads {serve : Time → (op : Op) → St → Resp op × St} {value : St → Option V}
    (hlawful : calls.Lawful serve value) (hreads : calls.reads event.op) :
    calls.supply supplied event = none :=
  if_neg fun hwrites => by simp [hlawful.reads_writes event.op hreads] at hwrites

variable [DecidableEq Thread]

theorem lastSupplied_split (thread : Thread) (trace : List (Event Thread Time Op Resp)) :
    calls.lastSupplied supplied trace =
      (calls.lastSupplied supplied (trace.takeWhile fun event => event.thread ≠ thread)).or
        (calls.lastSupplied supplied (trace.dropWhile fun event => event.thread ≠ thread)) := by
  unfold lastSupplied
  rw [← List.findSome?_append, List.takeWhile_append_dropWhile]

/-! ## Interleavings -/

section Interleaving

variable {serve : Time → (op : Op) → St → Resp op × St} {value : St → Option V}
variable {first : Pool Thread Time Op Resp α St}

variable (calls supplied value) in
/-- The store holds the value of which the trace tells, and a request has read the value of
which the trace told at its last call. -/
structure Tells (first pool : Pool Thread Time Op Resp α St) : Prop where
  stored : value pool.store = calls.told supplied (value first.store) pool.trace
  read : ∀ thread old, (calls.session (supplied thread)).along thread pool.trace = some old →
    calls.told supplied (value first.store)
      (pool.trace.dropWhile fun event => event.thread ≠ thread) = some old

/-- A value that was read and has stayed fresh is the one of which the trace tells. -/
theorem Tells.told_of_fresh {pool : Pool Thread Time Op Resp α St}
    (htells : calls.Tells supplied value first pool) {thread : Thread} {op : Op} {old : V}
    (homits : supplied thread = none)
    (hread : (calls.session (supplied thread)).along thread pool.trace = some old)
    (hwrites : (calls.writes op).isSome)
    (hfresh : calls.Fresh supplied (value first.store) pool thread op) :
    calls.told supplied (value first.store) pool.trace = some old := by
  have hold := htells.read thread old hread
  obtain ⟨initial, hinitial, hvalue⟩ := Option.map_eq_some_iff.mp hold
  rw [told, hinitial, Option.map_some, lastSupplied_split thread]
  cases hsince : calls.lastSupplied supplied
      (pool.trace.takeWhile fun event => event.thread ≠ thread) with
  | none => rw [Option.none_or, hvalue]
  | some new =>
      have hsame : some new = some old := (hfresh homits hwrites new hsince).symm.trans hold
      exact hsame

variable (hlawful : calls.Lawful serve value)
include hlawful

section Advance

variable {pool : Pool Thread Time Op Resp α St} (htells : calls.Tells supplied value first pool)
variable {thread : Thread} (now : Time) (readings : Nat → Time) {op : Op}
variable (next : Resp op → Program Time Op Resp α)
variable (hallowed : (calls.session (supplied thread)).allowed
  ((calls.session (supplied thread)).along thread pool.trace) op)
variable (hfresh : calls.Fresh supplied (value first.store) pool thread op)
include htells hallowed hfresh

theorem Tells.advance_stored :
    value (pool.advance serve thread now readings op next).store =
      calls.told supplied (value first.store)
        (pool.advance serve thread now readings op next).trace := by
  rw [Pool.advance_store, Pool.advance_trace]
  rcases hallowed with hreads | ⟨old, hread, hwrites⟩
  · rw [told_of_not (supply_of_reads hlawful hreads), hlawful.reads_value now op _ hreads]
    exact htells.stored
  · have hwriting : (calls.writes op).isSome := by simp [hwrites]
    rcases hlawful.written now op pool.store _ hwrites with
      ⟨hrefused, hsame⟩ | ⟨hcommitted, hpresent, hstored⟩
    · have hsupply : calls.supply supplied
          (⟨thread, now, op, (serve now op pool.store).1⟩ : Event Thread Time Op Resp) = none :=
        if_neg (by simp [hrefused])
      rw [told_of_not hsupply, hsame]
      exact htells.stored
    · have hsupply : calls.supply supplied
          (⟨thread, now, op, (serve now op pool.store).1⟩ : Event Thread Time Op Resp) =
            supplied thread :=
        if_pos ⟨hwriting, hcommitted⟩
      rw [hstored]
      cases hsupplied : supplied thread with
      | none =>
          rw [hsupplied] at hsupply
          rw [hsupplied, Option.getD_none] at hwrites
          rw [told_of_not hsupply, htells.told_of_fresh hsupplied hread hwriting hfresh]
          rfl
      | some new =>
          rw [hsupplied] at hsupply
          rw [htells.stored, told, Option.isSome_map] at hpresent
          obtain ⟨initial, hinitial⟩ := Option.isSome_iff_exists.mp hpresent
          rw [told, hinitial, lastSupplied_of_supply hsupply]
          rfl

theorem Tells.advance :
    calls.Tells supplied value first (pool.advance serve thread now readings op next) := by
  have hstored := htells.advance_stored hlawful now readings next hallowed hfresh
  refine ⟨hstored, fun other old hread => ?_⟩
  by_cases hother : other = thread
  · subst hother
    rw [Session.along_advance_self] at hread
    rcases hallowed with hreads | ⟨_, _, hwrites⟩
    · simp only [session, hlawful.reads_writes op hreads] at hread
      rw [Pool.advance_trace, List.dropWhile_cons, if_neg (by simp), ← Pool.advance_trace,
        ← hstored, Pool.advance_store, hlawful.reads_value now op _ hreads]
      exact hlawful.found_value now op _ old hreads hread
    · simp [session, hwrites] at hread
  · rw [Session.along_advance_other _ _ _ _ _ _ hother] at hread
    rw [Pool.advance_trace, List.dropWhile_cons, if_pos (by simpa using Ne.symm hother)]
    exact htells.read other old hread

end Advance

/-- If every write back is fresh, no update is lost. -/
theorem noLostUpdate_of_fresh {final : Thread → Option V → α → Prop} (store : St)
    (program : Thread → Program Time Op Resp α)
    (hprogram : ∀ thread, (program thread).Follows (calls.session (supplied thread))
      (final thread) none) :
    calls.NoLostUpdate supplied serve value (calls.Fresh supplied (value store))
      (Pool.start store program) := by
  have hcall : ∀ pool, Pool.Reaches serve (calls.Fresh supplied (value store))
      (Pool.start store program) pool → ∀ thread op next, pool.program thread = .call op next →
      (calls.session (supplied thread)).allowed
        ((calls.session (supplied thread)).along thread pool.trace) op := by
    intro pool hreach thread op next hcalled
    have hfollows := hreach.follows rfl hprogram thread
    rw [hcalled] at hfollows
    exact hfollows.1
  have htells : ∀ pool, Pool.Reaches serve (calls.Fresh supplied (value store))
      (Pool.start store program) pool →
      calls.Tells supplied value (Pool.start store program) pool := by
    intro pool hreach
    apply hreach.invariant
    · refine ⟨?_, ?_⟩
      · simp [Pool.start, told, lastSupplied]
      · intro thread old hread
        simp [Pool.start, Session.along, session] at hread
    · intro pool thread now readings op next hpool htells hcalled hfresh
      exact htells.advance hlawful now readings next
        (hcall pool hpool thread op next hcalled) hfresh
  intro pool hreach
  refine ⟨(htells pool hreach).stored, ?_⟩
  intro thread now readings op next hcalled hfresh homits
  have hstored := (htells pool hreach).advance_stored hlawful now readings next
    (hcall pool hreach thread op next hcalled) hfresh
  have hsupply : calls.supply supplied
      (⟨thread, now, op, (serve now op pool.store).1⟩ : Event Thread Time Op Resp) = none := by
    unfold supply
    split
    · exact homits
    · rfl
  rw [hstored, Pool.advance_trace, told_of_not hsupply]
  exact (htells pool hreach).stored.symm

end Interleaving

end WriteBack

end Skolva.Effect
