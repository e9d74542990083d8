import Skolva.Effect.Credentials
import Skolva.Effect.Program

/-! # Simulation

A store that answers as another one does, and a serial system that does on its states what
another one does on their abstractions.
-/

namespace Skolva.Effect

/-! ## Programs -/

namespace Program

variable {Time Op : Type} {Resp : Op → Type} {α St St' : Type}

/-- The second store answers each allowed call as the first one does, and their states stay
related. -/
def Simulates (serve : Time → (op : Op) → St → Resp op × St)
    (serve' : Time → (op : Op) → St' → Resp op × St') (now : Time) (allowed : Op → Prop)
    (rel : St → St' → Prop) : Prop :=
  ∀ ⦃op : Op⦄ ⦃st : St⦄ ⦃st' : St'⦄, allowed op → rel st st' →
    (serve' now op st').1 = (serve now op st).1 ∧ rel (serve now op st).2 (serve' now op st').2

variable {serve : Time → (op : Op) → St → Resp op × St}
  {serve' : Time → (op : Op) → St' → Resp op × St'} {now : Time} {allowed : Op → Prop}
  {rel : St → St' → Prop}

/-- So does a program of such calls. -/
theorem Simulates.run (hsimulates : Simulates serve serve' now allowed rel)
    {program : Program Time Op Resp α} (huses : program.Uses allowed) {st : St} {st' : St'}
    (hrel : rel st st') :
    (program.run serve' now st').1 = (program.run serve now st).1 ∧
      rel (program.run serve now st).2 (program.run serve' now st').2 := by
  induction program generalizing st st' with
  | done value => exact ⟨rfl, hrel⟩
  | clock next ih => exact ih now (huses now) hrel
  | call op next ih =>
      obtain ⟨hresp, hstate⟩ := hsimulates huses.1 hrel
      simp only [Program.run]
      rw [hresp]
      exact ih _ (huses.2 _) hstate

end Program

/-! ## Runs -/

section Run

variable {Request Reply Claim St St' : Type} (abstraction : St' → St)

/-- The entry between the abstractions of its states. -/
def Entry.abstracted (entry : Entry Request Reply St') : Entry Request Reply St where
  before := abstraction entry.before
  instant := entry.instant
  request := entry.request
  reply := entry.reply
  after := abstraction entry.after

variable {abstraction} {history : List (Entry Request Reply St')} {now : Nat} {request : Request}

theorem clockForward_abstracted :
    ClockForward (history.map (Entry.abstracted abstraction)) now ↔ ClockForward history now := by
  cases history with
  | nil => exact iff_of_true nofun nofun
  | cons entry rest => simp [ClockForward, Entry.abstracted]

variable {credentials : Credentials Request Reply Claim}

theorem Credentials.handedOut_abstracted :
    credentials.HandedOut (history.map (Entry.abstracted abstraction)) request ↔
      credentials.HandedOut history request := by
  refine forall_congr' fun claim => imp_congr_right fun _ => ?_
  constructor
  · rintro ⟨entry, hentry, hissued⟩
    obtain ⟨source, hsource, rfl⟩ := List.mem_map.mp hentry
    exact ⟨source, hsource, hissued⟩
  · rintro ⟨entry, hentry, hissued⟩
    exact ⟨entry.abstracted abstraction, List.mem_map_of_mem hentry, hissued⟩

/-- Where each request does on the abstraction of a state what it does on the state, a run is
one of the abstraction. -/
theorem Credentials.Run.abstracted {process : Nat → Request → St → Reply × St}
    {process' : Nat → Request → St' → Reply × St'} {start last : St'}
    (hrun : credentials.Run process' start history last)
    (hstep : ∀ (earlier : List (Entry Request Reply St)) before now request,
      credentials.Run process (abstraction start) earlier (abstraction before) →
      ClockForward earlier now → credentials.HandedOut earlier request →
      process now request (abstraction before) =
        ((process' now request before).1, abstraction (process' now request before).2)) :
    credentials.Run process (abstraction start) (history.map (Entry.abstracted abstraction))
      (abstraction last) := by
  induction hrun with
  | nil => exact .nil
  | @cons history before now request hhistory hadmissible ih =>
      have hclock : ClockForward (history.map (Entry.abstracted abstraction)) now :=
        clockForward_abstracted.mpr hadmissible.1
      have hhandedOut : credentials.HandedOut (history.map (Entry.abstracted abstraction)) request :=
        Credentials.handedOut_abstracted.mpr hadmissible.2
      have hprocess := hstep _ before now request ih hclock hhandedOut
      have hnext := Serial.cons now request ih ⟨hclock, hhandedOut⟩
      rw [hprocess] at hnext
      exact hnext

/-- In turn, a run from the abstraction of a state is the abstraction of one from the state. -/
theorem Credentials.Run.concrete {process : Nat → Request → St → Reply × St}
    {process' : Nat → Request → St' → Reply × St'} {start : St'} {last : St}
    {history : List (Entry Request Reply St)}
    (hrun : credentials.Run process (abstraction start) history last)
    (hstep : ∀ (earlier : List (Entry Request Reply St)) before now request,
      credentials.Run process (abstraction start) earlier (abstraction before) →
      ClockForward earlier now → credentials.HandedOut earlier request →
      process now request (abstraction before) =
        ((process' now request before).1, abstraction (process' now request before).2)) :
    ∃ history' last', credentials.Run process' start history' last' ∧
      history'.map (Entry.abstracted abstraction) = history ∧ abstraction last' = last := by
  induction hrun with
  | nil => exact ⟨[], start, .nil, rfl, rfl⟩
  | cons now request hhistory hadmissible ih =>
      obtain ⟨history', before, hrun', rfl, rfl⟩ := ih
      have hprocess := hstep _ before now request hhistory hadmissible.1 hadmissible.2
      refine ⟨_, _, .cons now request hrun' ⟨clockForward_abstracted.mp hadmissible.1,
        Credentials.handedOut_abstracted.mp hadmissible.2⟩, ?_, ?_⟩
      · simp only [List.map_cons, Entry.abstracted, hprocess]
      · rw [hprocess]

end Run

/-! ## Requests left out -/

section Purge

variable {Request Reply Claim St : Type} {credentials : Credentials Request Reply Claim}
  {process : Nat → Request → St → Reply × St} {abstraction : St → St} {visible : Request → Bool}
  {start last : St} {history : List (Entry Request Reply St)}

/-- The visible requests do the same on the abstraction of a state. The others leave the
abstraction as it is, and issue nothing. -/
structure Separates (credentials : Credentials Request Reply Claim)
    (process : Nat → Request → St → Reply × St) (abstraction : St → St)
    (visible : Request → Bool) : Prop where
  seen : ∀ now request before, visible request = true →
    process now request (abstraction before) =
      ((process now request before).1, abstraction (process now request before).2)
  unseen : ∀ now request before, visible request = false →
    abstraction (process now request before).2 = abstraction before
  issuesNothing : ∀ now request before, visible request = false →
    ∀ claim, ¬credentials.issues (process now request before).1 claim

/-- The abstractions of the entries of visible requests. -/
def purged (abstraction : St → St) (visible : Request → Bool)
    (history : List (Entry Request Reply St)) : List (Entry Request Reply St) :=
  (history.filter fun entry => visible entry.request).map (Entry.abstracted abstraction)

theorem mem_purged {entry : Entry Request Reply St} :
    entry ∈ purged abstraction visible history ↔
      ∃ old ∈ history, visible old.request = true ∧ old.abstracted abstraction = entry := by
  simp only [purged, List.mem_map, List.mem_filter, and_assoc]

/-- The requests that are not visible can be left out of a run: the others get the same
replies without them. -/
theorem Separates.run (hseparates : Separates credentials process abstraction visible)
    (hrun : credentials.Run process start history last) :
    credentials.Run process (abstraction start) (purged abstraction visible history)
      (abstraction last) := by
  induction hrun with
  | nil => exact .nil
  | @cons history before now request hhistory hadmissible ih =>
      unfold purged at ih ⊢
      cases hvisible : visible request with
      | false =>
          rw [List.filter_cons_of_neg (by simp [hvisible]), hseparates.unseen _ _ _ hvisible]
          exact ih
      | true =>
          have hclock : ClockForward (purged abstraction visible history) now := by
            intro latest hlatest
            obtain ⟨old, hold, -, rfl⟩ := mem_purged.mp (List.mem_of_mem_head? hlatest)
            have hearlier : old.instant ≤ now :=
              Credentials.Run.instant_le hhistory hadmissible.1 hold
            exact hearlier
          have hhandedOut :
              credentials.HandedOut (purged abstraction visible history) request := by
            intro claim hpresents
            obtain ⟨old, hold, hissued⟩ := hadmissible.2 claim hpresents
            refine ⟨old.abstracted abstraction, mem_purged.mpr ⟨old, hold, ?_, rfl⟩, hissued⟩
            -- A reply that issues a claim was one to a visible request.
            obtain ⟨later, earlier, hsplit⟩ := List.append_of_mem hold
            obtain ⟨-, -, hprocess⟩ := Serial.entry hhistory hsplit
            by_contra hunseen
            refine hseparates.issuesNothing old.instant old.request old.before
              (Bool.eq_false_iff.mpr hunseen) claim ?_
            rwa [hprocess]
          have hnext := Serial.cons now request ih ⟨hclock, hhandedOut⟩
          rw [hseparates.seen _ _ _ hvisible] at hnext
          rw [List.filter_cons_of_pos (by simpa using hvisible)]
          exact hnext

/-- So what is not visible, in the start or in requests, decides no reply to the others. -/
theorem Separates.noninterference
    (hseparates : Separates credentials process abstraction visible)
    {start' last' : St} {history' : List (Entry Request Reply St)}
    (hrun : credentials.Run process start history last)
    (hrun' : credentials.Run process start' history' last')
    (hstart : abstraction start = abstraction start')
    (hsame : (purged abstraction visible history).map (fun entry => (entry.instant, entry.request)) =
      (purged abstraction visible history').map fun entry => (entry.instant, entry.request)) :
    purged abstraction visible history = purged abstraction visible history' ∧
      abstraction last = abstraction last' := by
  have hother := hseparates.run hrun'
  rw [← hstart] at hother
  exact Serial.deterministic (hseparates.run hrun) hother hsame

end Purge

/-! ## Calls -/

section Calls

variable {Request Reply Call Answer St : Type} (processCall : Nat → Call → St → Answer × St)
  (callOf : Nat → Request → St → Option Call)

/-- The state after the call that a request makes, if it makes one. -/
def stateAfter (now : Nat) (before : St) : Option Call → St
  | none => before
  | some call => (processCall now call before).2

/-- The entry of the call that a request makes. -/
def Entry.call (entry : Entry Request Reply St) : Option (Entry Call Answer St) :=
  (callOf entry.instant entry.request entry.before).map fun call =>
    ⟨entry.before, entry.instant, call, (processCall entry.instant call entry.before).1,
      (processCall entry.instant call entry.before).2⟩

variable {processCall callOf} {process : Nat → Request → St → Reply × St}
  {admissible : List (Entry Request Reply St) → Nat → Request → Prop} {start last : St}
  {history : List (Entry Request Reply St)}

theorem Entry.instant_call {entry : Entry Request Reply St} {call : Entry Call Answer St}
    (hcall : entry.call processCall callOf = some call) : call.instant = entry.instant := by
  obtain ⟨made, -, rfl⟩ := Option.map_eq_some_iff.mp hcall
  rfl

/-- Where each request leaves the state that its call leaves, a run of requests is one of the
calls they make. The requests without a call leave everything as it is. -/
theorem Serial.calls (hrun : Serial process admissible start history last)
    (hclock : ∀ history now request, admissible history now request → ClockForward history now)
    (hstate : ∀ now request before,
      (process now request before).2 = stateAfter processCall now before (callOf now request before)) :
    Serial processCall (fun history now _ => ClockForward history now) start
      (history.filterMap (Entry.call processCall callOf)) last := by
  induction hrun with
  | nil => exact .nil
  | @cons history before now request hhistory hadmissible ih =>
      have hinstants : ∀ old ∈ history, old.instant ≤ now :=
        Serial.instant_le (.cons now request hhistory hadmissible) hclock (List.nil_append _).symm
      rw [hstate]
      cases hcall : callOf now request before with
      | none =>
          rw [List.filterMap_cons_none (by rw [Entry.call, hcall, Option.map_none])]
          exact ih
      | some call =>
          rw [List.filterMap_cons_some (by rw [Entry.call, hcall, Option.map_some])]
          refine .cons now call ih fun latest hlatest => ?_
          obtain ⟨old, hold, hmade⟩ := List.mem_filterMap.mp (List.mem_of_mem_head? hlatest)
          rw [Entry.instant_call hmade]
          exact hinstants old hold

end Calls

end Skolva.Effect
