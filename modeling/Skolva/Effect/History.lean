import Mathlib.Data.List.Basic

/-! # Serial histories of requests

Requests are processed one after the other, each at one instant. A history
records every request with its reply and the states around it, latest first.
Which request may come next can depend on the history, for instance because the
clock never goes back or because a credential must have been handed out before.
-/

namespace Skolva.Effect

/-- One processed request. -/
structure Entry (Request Reply St : Type) where
  before : St
  instant : Nat
  request : Request
  reply : Reply
  after : St

/-- The histories that lead from `start` to a state. -/
inductive Serial {Request Reply St : Type} (process : Nat → Request → St → Reply × St)
    (admissible : List (Entry Request Reply St) → Nat → Request → Prop) (start : St) :
    List (Entry Request Reply St) → St → Prop where
  | nil : Serial process admissible start [] start
  | cons {history : List (Entry Request Reply St)} {before : St} (now : Nat) (request : Request)
      (hhistory : Serial process admissible start history before)
      (hadmissible : admissible history now request) :
      Serial process admissible start
        (⟨before, now, request, (process now request before).1,
          (process now request before).2⟩ :: history)
        (process now request before).2

/-- The clock has not gone back since the latest request. -/
def ClockForward {Request Reply St : Type} (history : List (Entry Request Reply St))
    (now : Nat) : Prop :=
  ∀ entry ∈ history.head?, entry.instant ≤ now

namespace Serial

variable {Request Reply St : Type} {process : Nat → Request → St → Reply × St}
variable {admissible : List (Entry Request Reply St) → Nat → Request → Prop} {start : St}
variable {history : List (Entry Request Reply St)} {last : St}

/-- What holds at the start and is preserved by every request holds throughout. -/
theorem invariant {motive : List (Entry Request Reply St) → St → Prop}
    (hserial : Serial process admissible start history last) (hstart : motive [] start)
    (hstep : ∀ history before now request,
      Serial process admissible start history before → motive history before →
      admissible history now request →
      motive (⟨before, now, request, (process now request before).1,
        (process now request before).2⟩ :: history) (process now request before).2) :
    motive history last := by
  induction hserial with
  | nil => exact hstart
  | cons now request hhistory hadmissible ih =>
      exact hstep _ _ now request hhistory ih hadmissible

/-- Every entry was admitted and processed after the history before it. -/
theorem entry (hserial : Serial process admissible start history last)
    {later earlier : List (Entry Request Reply St)} {entry : Entry Request Reply St}
    (hsplit : history = later ++ entry :: earlier) :
    Serial process admissible start earlier entry.before ∧
      admissible earlier entry.instant entry.request ∧
      process entry.instant entry.request entry.before = (entry.reply, entry.after) := by
  induction hserial generalizing later with
  | nil => simp at hsplit
  | cons now request hhistory hadmissible ih =>
      cases later with
      | nil =>
          obtain ⟨rfl, rfl⟩ := List.cons.inj hsplit
          exact ⟨hhistory, hadmissible, rfl⟩
      | cons _ later => exact ih (List.cons.inj hsplit).2

/-- Each part of a history that reaches back to its start leads to a state. -/
theorem earlier (hserial : Serial process admissible start history last)
    {later earlier : List (Entry Request Reply St)} (hsplit : history = later ++ earlier) :
    ∃ state, Serial process admissible start earlier state := by
  subst hsplit
  induction later generalizing last with
  | nil => exact ⟨last, hserial⟩
  | cons entry later ih =>
      cases hserial with
      | cons _ _ hhistory _ => exact ih hhistory

/-- What holds after a part of a history and is preserved by each later entry holds at
the end. The property may look at the later entries so far. -/
theorem along {motive : List (Entry Request Reply St) → St → Prop}
    (hserial : Serial process admissible start history last)
    {later earlier : List (Entry Request Reply St)} (hsplit : history = later ++ earlier)
    (hfirst : ∀ state, Serial process admissible start earlier state → motive [] state)
    (hstep : ∀ segment, ∀ entry ∈ later,
      process entry.instant entry.request entry.before = (entry.reply, entry.after) →
      motive segment entry.before → motive (entry :: segment) entry.after) :
    motive later last := by
  -- On the run: an entry belongs to the later part, or that part is empty.
  induction hserial generalizing later with
  | nil =>
      obtain ⟨rfl, rfl⟩ := List.append_eq_nil_iff.mp hsplit.symm
      exact hfirst _ .nil
  | @cons history before now request hhistory hadmissible ih =>
      cases later with
      | nil =>
          rw [List.nil_append] at hsplit
          exact hfirst _ (hsplit ▸ .cons now request hhistory hadmissible)
      | cons entry later =>
          obtain ⟨rfl, hrest⟩ := List.cons.inj hsplit
          have hbefore : motive later before := ih hrest fun segment entry hentry =>
            hstep segment entry (List.mem_cons_of_mem _ hentry)
          exact hstep later _ List.mem_cons_self rfl hbefore

/-- What no entry changes is at the end as it was at the start. -/
theorem unchanged {β : Type} (part : St → β)
    (hserial : Serial process admissible start history last)
    (hsame : ∀ later entry earlier, history = later ++ entry :: earlier →
      part entry.after = part entry.before) : part last = part start := by
  induction hserial with
  | nil => rfl
  | cons now request _ _ ih =>
      refine (hsame [] _ _ rfl).trans (ih fun later entry earlier hsplit => ?_)
      exact hsame (_ :: later) entry earlier (congrArg _ hsplit)

/-- What an entry has found, and every request preserves, holds at the end. -/
theorem preserved {motive : St → Prop} (hserial : Serial process admissible start history last)
    {later earlier : List (Entry Request Reply St)} {entry : Entry Request Reply St}
    (hsplit : history = later ++ entry :: earlier) (hbefore : motive entry.before)
    (hstep : ∀ now request before, motive before → motive (process now request before).2) :
    motive last := by
  induction hserial generalizing later with
  | nil => simp at hsplit
  | cons now request _ _ ih =>
      apply hstep
      cases later with
      | nil =>
          obtain ⟨rfl, -⟩ := List.cons.inj hsplit
          exact hbefore
      | cons _ later => exact ih (List.cons.inj hsplit).2

/-- What holds after an entry, and every request preserves, each later entry finds. -/
theorem onwards {motive : St → Prop} (hserial : Serial process admissible start history last)
    {later earlier : List (Entry Request Reply St)} {entry : Entry Request Reply St}
    (hsplit : history = later ++ entry :: earlier) (hafter : motive entry.after)
    (hstep : ∀ now request before, motive before → motive (process now request before).2) :
    motive last ∧ ∀ old ∈ later, motive old.before := by
  induction hserial generalizing later with
  | nil => simp at hsplit
  | cons now request _ _ ih =>
      cases later with
      | nil =>
          obtain ⟨rfl, -⟩ := List.cons.inj hsplit
          exact ⟨hafter, nofun⟩
      | cons latest later =>
          obtain ⟨rfl, hrest⟩ := List.cons.inj hsplit
          obtain ⟨hbefore, hothers⟩ := ih hrest
          exact ⟨hstep _ _ _ hbefore, List.forall_mem_cons.mpr ⟨hbefore, hothers⟩⟩

/-- The requests of a history and when they came decide the rest of it. -/
theorem deterministic (hserial : Serial process admissible start history last)
    {history' : List (Entry Request Reply St)} {last' : St}
    (hserial' : Serial process admissible start history' last')
    (hsame : history.map (fun entry => (entry.instant, entry.request)) =
      history'.map fun entry => (entry.instant, entry.request)) :
    history = history' ∧ last = last' := by
  induction hserial generalizing history' last' with
  | nil =>
      cases hserial' with
      | nil => exact ⟨rfl, rfl⟩
      | cons => exact nomatch hsame
  | cons now request _ _ ih =>
      cases hserial' with
      | nil => exact nomatch hsame
      | cons now' request' hhistory' _ =>
          obtain ⟨hlatest, hrest⟩ := List.cons.inj hsame
          obtain ⟨rfl, rfl⟩ := Prod.mk.inj hlatest
          obtain ⟨rfl, rfl⟩ := ih hhistory' hrest
          exact ⟨rfl, rfl⟩

/-- An earlier entry carries an earlier instant. -/
theorem instant_le (hserial : Serial process admissible start history last)
    (hclock : ∀ history now request, admissible history now request → ClockForward history now)
    {later earlier : List (Entry Request Reply St)} {entry : Entry Request Reply St}
    (hsplit : history = later ++ entry :: earlier) :
    ∀ old ∈ earlier, old.instant ≤ entry.instant := by
  obtain ⟨hearlier, hadmissible, _⟩ := hserial.entry hsplit
  have hforward := hclock _ _ _ hadmissible
  clear hserial hsplit hadmissible
  generalize entry.before = before at hearlier
  generalize entry.instant = now at hforward ⊢
  induction hearlier generalizing now with
  | nil => simp
  | cons instant request _ hadmissible ih =>
      intro old hold
      have hlatest : instant ≤ now := hforward _ rfl
      rcases List.mem_cons.mp hold with rfl | hold
      · exact hlatest
      · exact Nat.le_trans (ih instant (hclock _ _ _ hadmissible) old hold) hlatest

/-! ## Cells -/

section Cells

variable {Key Value : Type} [DecidableEq Key] (writes : Entry Request Reply St → Option (Key × Value))

/-- What the entry writes under this key. -/
def written (entry : Entry Request Reply St) (key : Key) : Option Value :=
  (writes entry).bind fun write => if write.1 = key then some write.2 else none

/-- What has been written under this key last. -/
def latest (history : List (Entry Request Reply St)) (key : Key) : Option Value :=
  history.findSome? fun entry => written writes entry key

variable {writes}

/-- A cell that each request leaves as it is, or sets to what it writes, has what was written
last. -/
theorem cell_eq_latest (hserial : Serial process admissible start history last)
    {cell : St → Key → Option Value}
    (hstep : ∀ now request before key,
      cell (process now request before).2 key =
        (written writes ⟨before, now, request, (process now request before).1,
          (process now request before).2⟩ key).or (cell before key)) (key : Key) :
    cell last key = (latest writes history key).or (cell start key) := by
  induction hserial with
  | nil => rfl
  | cons now request _ _ ih =>
      rw [hstep, ih, latest, latest, List.findSome?_cons]
      cases written writes _ key <;> rfl

end Cells

/-! ## Given requests -/

variable (process : Nat → Request → St → Reply × St) (tick : Nat → Nat) (start : St)

/-- The history of these requests, the latest of which comes first, at the ticks of a clock. -/
def record : List Request → List (Entry Request Reply St)
  | [] => []
  | request :: requests =>
      let history := record requests
      let before := (history.head?.map Entry.after).getD start
      let now := tick requests.length
      ⟨before, now, request, (process now request before).1, (process now request before).2⟩ ::
        history

def recorded (requests : List Request) : St :=
  ((record process tick start requests).head?.map Entry.after).getD start

theorem run_record (hforward : ∀ count, tick count ≤ tick (count + 1)) (requests : List Request) :
    Serial process (fun history now _ => ClockForward history now) start
      (record process tick start requests) (recorded process tick start requests) := by
  induction requests with
  | nil => exact .nil
  | cons request requests ih =>
      refine .cons (tick requests.length) request ih fun entry hentry => ?_
      cases requests with
      | nil => exact absurd hentry (Option.not_mem_none _)
      | cons last requests =>
          obtain rfl := Option.some.inj hentry
          exact hforward requests.length

end Serial

end Skolva.Effect
