import Skolva.Effect.History

/-! # Credentials

Replies issue claims, and requests present them. Nobody can make up a claim: what a
request presents, an earlier reply has issued.
-/

namespace Skolva.Effect

/-- Which claims a request presents, and which ones a reply issues. -/
structure Credentials (Request Reply Claim : Type) where
  presents : Request → Claim → Prop
  issues : Reply → Claim → Prop

namespace Credentials

variable {Request Reply Claim St Agent : Type} (credentials : Credentials Request Reply Claim)

/-- Every claim the request presents was issued before. -/
def HandedOut (history : List (Entry Request Reply St)) (request : Request) : Prop :=
  ∀ claim, credentials.presents request claim →
    ∃ entry ∈ history, credentials.issues entry.reply claim

/-- Serial runs under a clock that does not go back, without forged claims. -/
def Run (process : Nat → Request → St → Reply × St) (start : St) :
    List (Entry Request Reply St) → St → Prop :=
  Serial process
    (fun history now request => ClockForward history now ∧ credentials.HandedOut history request)
    start

variable {credentials} {process : Nat → Request → St → Reply × St} {start last : St}
  {history : List (Entry Request Reply St)}

/-- The entry, processed after the history before it, has issued the claim. -/
structure Minted (credentials : Credentials Request Reply Claim)
    (process : Nat → Request → St → Reply × St) (start : St)
    (earlier : List (Entry Request Reply St)) (mint : Entry Request Reply St) (claim : Claim) :
    Prop where
  run : credentials.Run process start earlier mint.before
  handedOut : credentials.HandedOut earlier mint.request
  processed : process mint.instant mint.request mint.before = (mint.reply, mint.after)
  issued : credentials.issues mint.reply claim

theorem Run.clock {now : Nat} {request : Request}
    (hadmissible : ClockForward history now ∧ credentials.HandedOut history request) :
    ClockForward history now :=
  hadmissible.1

/-- What a request presents, an earlier entry has issued. -/
theorem Run.minted (hrun : credentials.Run process start history last) {request : Request}
    (hhandedOut : credentials.HandedOut history request) {claim : Claim}
    (hpresents : credentials.presents request claim) :
    ∃ later mint earlier, history = later ++ mint :: earlier ∧
      credentials.Minted process start earlier mint claim := by
  obtain ⟨mint, hmint, hissued⟩ := hhandedOut claim hpresents
  obtain ⟨later, earlier, hsplit⟩ := List.append_of_mem hmint
  obtain ⟨hearlier, ⟨-, hbefore⟩, hprocess⟩ := Serial.entry hrun hsplit
  exact ⟨later, mint, earlier, hsplit, hearlier, hbefore, hprocess, hissued⟩

/-- A request that comes next is no earlier than any entry. -/
theorem Run.instant_le (hrun : credentials.Run process start history last) {now : Nat}
    (hclock : ClockForward history now) {entry : Entry Request Reply St} (hentry : entry ∈ history) :
    entry.instant ≤ now := by
  cases history with
  | nil => exact absurd hentry List.not_mem_nil
  | cons latest rest =>
      have hlatest : latest.instant ≤ now := hclock latest rfl
      rcases List.mem_cons.mp hentry with rfl | hrest
      · exact hlatest
      · have hearlier : entry.instant ≤ latest.instant :=
          Serial.instant_le hrun (fun _ _ _ => Run.clock) (List.nil_append _).symm entry hrest
        exact Nat.le_trans hearlier hlatest

/-! ## Lineages -/

section Lineage

variable (credentials process start) (empowers : Nat → Claim → Agent → Prop)
  (holds : St → Agent → Prop)

/-- The agent holds a power from the start, or was given it by a request that presented the
claim of an agent of the lineage. Each claim was issued before it was presented. -/
inductive Lineage : List (Entry Request Reply St) → Agent → Prop where
  | root {history : List (Entry Request Reply St)} {agent : Agent} (hstart : holds start agent) :
      Lineage history agent
  | appointed {history later earlier between before : List (Entry Request Reply St)}
      {appointment mint : Entry Request Reply St} {claim : Claim} {appointer agent : Agent}
      (happointment : history = later ++ appointment :: earlier)
      (hmint : earlier = between ++ mint :: before)
      (hminted : credentials.Minted process start before mint claim)
      (hpresents : credentials.presents appointment.request claim)
      (hempowers : empowers appointment.instant claim appointer)
      (hheld : holds mint.before appointer)
      (happointer : Lineage before appointer)
      (hgained : ¬holds appointment.before agent ∧ holds appointment.after agent) :
      Lineage history agent

variable {credentials process start empowers holds}

/-- A lineage has a root. -/
theorem Lineage.exists_root {agent : Agent}
    (hlineage : credentials.Lineage process start empowers holds history agent) :
    ∃ root, holds start root := by
  induction hlineage with
  | @root history agent hstart => exact ⟨agent, hstart⟩
  | appointed _ _ _ _ _ _ _ _ ih => exact ih

variable (holds) in
/-- A power that is held at the end is held from the start, or it was gained on the way. -/
theorem Run.gained (hrun : credentials.Run process start history last) {agent : Agent}
    (hholds : holds last agent) :
    holds start agent ∨ ∃ later entry earlier, history = later ++ entry :: earlier ∧
      ¬holds entry.before agent ∧ holds entry.after agent := by
  induction hrun with
  | nil => exact .inl hholds
  | @cons history before now request _ _ ih =>
      by_cases hbefore : holds before agent
      · rcases ih hbefore with hstart | ⟨later, entry, earlier, hsplit, hgained⟩
        · exact .inl hstart
        · exact .inr ⟨_ :: later, entry, earlier, congrArg _ hsplit, hgained⟩
      · exact .inr ⟨[], _, history, rfl, hbefore, hholds⟩

/-- If claims are issued to those who hold a power only, and it is given by requests that
present such a claim only, whoever holds it at the end has a lineage. -/
theorem Run.lineage
    (hissue : ∀ earlier mint claim appointer instant,
      credentials.Minted process start earlier mint claim → empowers instant claim appointer →
        holds mint.before appointer)
    (hgain : ∀ (earlier : List (Entry Request Reply St)) (entry : Entry Request Reply St) agent,
      credentials.Run process start earlier entry.before →
      credentials.HandedOut earlier entry.request →
      process entry.instant entry.request entry.before = (entry.reply, entry.after) →
      ¬holds entry.before agent → holds entry.after agent →
        ∃ claim appointer, credentials.presents entry.request claim ∧
          empowers entry.instant claim appointer)
    (hrun : credentials.Run process start history last) {agent : Agent}
    (hholds : holds last agent) :
    credentials.Lineage process start empowers holds history agent := by
  -- On the length of the history: a claim was issued after a shorter one.
  induction hlength : history.length using Nat.strongRecOn
    generalizing history last agent with
  | ind length ih =>
      rcases hrun.gained holds hholds with hstart | ⟨later, entry, earlier, hsplit, hnot, hgained⟩
      · exact .root hstart
      · obtain ⟨hearlier, ⟨-, hhandedOut⟩, hprocess⟩ := Serial.entry hrun hsplit
        obtain ⟨claim, appointer, hpresents, hempowers⟩ :=
          hgain earlier entry agent hearlier hhandedOut hprocess hnot hgained
        obtain ⟨between, mint, before, hbefore, hminted⟩ :=
          Run.minted hearlier hhandedOut hpresents
        have hheld := hissue before mint claim appointer _ hminted hempowers
        have hshorter : before.length < length := by
          rw [← hlength, hsplit, hbefore]
          simp only [List.length_append, List.length_cons]
          omega
        exact .appointed hsplit hbefore hminted hpresents hempowers hheld
          (ih before.length hshorter hminted.run hheld rfl) ⟨hnot, hgained⟩

end Lineage

end Credentials

end Skolva.Effect
