import Skolva.Http.Changes

/-! # Authorization over whole runs

Who changes records, and where the right to do so comes from.
-/

namespace Skolva.Http

open Effect
open Auth (Claims)
open Api (Db)

/-- A change of records, with the permission that the routes ask for. -/
inductive Changes (before after : Db) : String → Prop where
  | users (hchanges : after.userTables ≠ before.userTables) : Changes before after "users.write"
  | groups (hchanges : after.groupRecords ≠ before.groupRecords) :
      Changes before after "groups.write"

namespace Server

variable {s : Server}

/-! ## One request -/

section Request

variable {now : Nat} {request : Request} {db : Db}

/-- The request resets the password of the user that its body names, with the token of his mail.
Of the records, this writes his hash and a stamp. -/
structure ResetsPassword (s : Server) (now : Nat) (request : Request) (db : Db) : Prop where
  resets : ∃ actor, s.Resets now db (s.action actor request db)
  users : (s.process now request db).2.userRecords = db.userRecords
  others : ∃ req ∈ request.body.bind bindPasswordReset,
    ∃ userID ∈ s.service.lib.uuidParse req.userID, ∀ u, u ≠ userID →
      (s.process now request db).2.auth.users.filter (fun user => user.id = u) =
        db.auth.users.filter fun user => user.id = u
  groups : (s.process now request db).2.groupRecords = db.groupRecords

theorem resetsPassword_of_pass {passed : Option Auth.Actor}
    (hpass : s.pass now request db = .ok passed)
    (hresets : s.Resets now db (s.action (s.actorID passed) request db)) :
    s.ResetsPassword now request db := by
  have hprocess : s.process now request db =
      s.perform now db (s.action (s.actorID passed) request db) := by
    unfold process
    rw [hpass]
  obtain ⟨salt, req, userID, haction, hid⟩ := exists_of_resets now hresets
  obtain ⟨-, -, hbody⟩ := resetPassword_of_action haction
  refine ⟨⟨s.actorID passed, hresets⟩, ?_, ⟨req, hbody.symm, userID, hid, fun u hother => ?_⟩, ?_⟩
  · rw [hprocess, haction]
    exact userRecords_perform now db not_false
  · rw [hprocess, haction]
    exact Auth.users_resetPassword now db.auth hid hother
  · rw [hprocess, haction]
    exact groupRecords_perform now db not_false

theorem action_of_changes {permission : String}
    (hchanges : Changes db (s.process now request db).2 permission) :
    ∃ passed, s.pass now request db = .ok passed ∧
      (request.endpoint.guard = .requirePermission permission ∨
        permission = "users.write" ∧ s.Resets now db (s.action (s.actorID passed) request db)) := by
  unfold process at hchanges
  cases hpass : s.pass now request db with
  | error refusal =>
      rw [hpass] at hchanges
      cases hchanges with
      | users hchanges => exact absurd rfl hchanges
      | groups hchanges => exact absurd rfl hchanges
  | ok passed =>
      rw [hpass] at hchanges
      dsimp only at hchanges
      refine ⟨passed, rfl, ?_⟩
      cases hchanges with
      | users hchanges =>
          by_cases hresets : s.Resets now db (s.action (s.actorID passed) request db)
          · exact .inr ⟨rfl, hresets⟩
          · left
            by_contra hguard
            refine hchanges (userTables_perform now (fun hedits => ?_) hresets)
            exact hguard (guard_of_editsUsers hedits)
      | groups hchanges =>
          left
          by_contra hguard
          exact hchanges
            (groupRecords_perform now db fun hedits => hguard (guard_of_editsGroups hedits))

/-- Records are changed by bearers of the permission, and passwords by those of a reset token. -/
theorem bears_or_resets {permission : String}
    (hchanges : Changes db (s.process now request db).2 permission) :
    (∃ claims, s.Bears now request claims ∧ claims.Permit permission) ∨
      permission = "users.write" ∧ s.ResetsPassword now request db := by
  obtain ⟨passed, hpass, hguard | ⟨hpermission, hresets⟩⟩ := action_of_changes hchanges
  · obtain ⟨claims, hbears, hpermit, -⟩ := (pass_permission_iff hguard).mp hpass
    exact .inl ⟨claims, hbears, hpermit⟩
  · exact .inr ⟨hpermission, resetsPassword_of_pass hpass hresets⟩

theorem bears_of_userRecords
    (hchanges : (s.process now request db).2.userRecords ≠ db.userRecords) :
    ∃ claims, s.Bears now request claims ∧ claims.Permit "users.write" := by
  have htables : Changes db (s.process now request db).2 "users.write" :=
    .users fun hsame => hchanges (Api.Db.userRecords_of_userTables hsame)
  rcases bears_or_resets htables with hbears | ⟨-, hresets⟩
  · exact hbears
  · exact absurd hresets.users hchanges

/-- What the tables permit changes with the records of users alone. -/
theorem userRecords_of_permits {u : Uuid} {permission : String}
    (hbefore : ¬db.auth.Permits u permission)
    (hafter : (s.process now request db).2.auth.Permits u permission) :
    (s.process now request db).2.userRecords ≠ db.userRecords := by
  intro hsame
  refine hbefore ?_
  exact (Auth.Db.permits_congr (congrArg Api.UserRecords.rbac hsame) u permission).mp hafter

end Request

/-! ## Every change is authorized -/

/-- The entry is a login of the user with a password, or the second step of one. -/
def SignsIn (s : Server) (u : Uuid) (entry : s.Entry) : Prop :=
  ∃ actor request, s.action actor entry.request entry.before = .auth request ∧
    (s.service.PasswordSuffices entry.before.auth u request ∨
      s.service.SecondFactorPassed entry.instant entry.before.auth u request ∧
        (entry.before.auth.liveUser u).isSome = true)

section Run

variable {start last : Db} {history : List s.Entry}

/-- Whoever is handed an access token has signed in. -/
theorem GrantsTo.signsIn {u : Uuid} {claims : Claims} {mint : s.Entry}
    (hgrants : s.GrantsTo u claims mint)
    (hprocess : s.process mint.instant mint.request mint.before = (mint.reply, mint.after)) :
    s.SignsIn u mint := by
  have hissued : s.credentials.issues (s.process mint.instant mint.request mint.before).1 claims := by
    rw [hprocess]
    exact hgrants.1
  obtain ⟨actor, call, haction, token, htoken, hparse⟩ := auth_of_issued hissued
  refine ⟨actor, call, haction, ?_⟩
  exact (Auth.Handler.grantsAccess_process s.service mint.instant mint.before.auth u call).mp
    ⟨token, htoken, claims, hparse, hgrants.kind, hgrants.subject⟩

/-- The entry has handed out these claims to a user who has signed in and is permitted, and
they are still valid at the instant. -/
structure Authorizes (s : Server) (permission : String) (instant : Nat) (claims : Claims)
    (mint : s.Entry) (u : Uuid) : Prop where
  signsIn : s.SignsIn u mint
  grants : s.GrantsTo u claims mint
  permits : mint.before.auth.Permits u permission
  minted : mint.instant ≤ instant
  inTime : (instant : Int) < (mint.instant + s.service.tm.accessTTL) / Time.second * Time.second

theorem authorizes_of_bears (hrun : s.Run start history last) {now : Nat} {request : Request}
    (hclock : ClockForward history now) (hhandedOut : s.credentials.HandedOut history request)
    {claims : Claims} (hbears : s.Bears now request claims) {permission : String}
    (hpermit : claims.Permit permission) :
    ∃ later mint earlier u, history = later ++ mint :: earlier ∧
      s.credentials.Minted s.process start earlier mint claims ∧
      s.Authorizes permission now claims mint u := by
  obtain ⟨later, mint, earlier, u, hsplit, hminted, hgrants⟩ := hrun.granted hhandedOut hbears
  have hmint : mint ∈ history := hsplit ▸ List.mem_append_right _ List.mem_cons_self
  have hbefore : mint.instant ≤ now := Credentials.Run.instant_le hrun hclock hmint
  obtain ⟨text, -, -, -, hvalid⟩ := hbears
  exact ⟨later, mint, earlier, u, hsplit, hminted, hgrants.signsIn hminted.processed, hgrants,
    hgrants.permit_iff.mp hpermit, hbefore, (hgrants.validAt_iff hbefore).mp hvalid⟩

/-- An entry that changes records bears a token that an earlier one has authorized, or resets a
password. -/
theorem authorizes_of_changes (hrun : s.Run start history last) {later earlier : List s.Entry}
    {entry : s.Entry} (hsplit : history = later ++ entry :: earlier) {permission : String}
    (hchanges : Changes entry.before entry.after permission) :
    (∃ claims, s.Bears entry.instant entry.request claims ∧
      ∃ between mint before u, earlier = between ++ mint :: before ∧
        s.credentials.Minted s.process start before mint claims ∧
        s.Authorizes permission entry.instant claims mint u) ∨
      permission = "users.write" ∧ s.ResetsPassword entry.instant entry.request entry.before := by
  obtain ⟨hearlier, ⟨hclock, hhandedOut⟩, hprocess⟩ := Serial.entry hrun hsplit
  have hafter : entry.after = (s.process entry.instant entry.request entry.before).2 := by
    rw [hprocess]
  rw [hafter] at hchanges
  rcases bears_or_resets hchanges with ⟨claims, hbears, hpermit⟩ | hresets
  · exact .inl ⟨claims, hbears, authorizes_of_bears hearlier hclock hhandedOut hbears hpermit⟩
  · exact .inr hresets

end Run

end Server

namespace Sample

end Sample

/-! ## Where the right comes from -/

namespace Server

variable {s : Server}

section Run

variable {start last : Db} {history : List s.Entry}

/-- The claims are those of a valid access token of the user that lets him write users. -/
def Empowers (s : Server) (now : Nat) (claims : Claims) (u : Uuid) : Prop :=
  claims.kind = Auth.tokenKindAccess ∧ claims.ValidAt now ∧ claims.Permit "users.write" ∧
    s.service.lib.uuidParse claims.subject = some u

/-- Who may write users, and was appointed by whom. -/
abbrev Lineage (s : Server) (start : Db) : List s.Entry → Uuid → Prop :=
  s.credentials.Lineage s.process start s.Empowers fun db u => db.auth.Permits u "users.write"

theorem permits_of_empowers {earlier : List s.Entry} {mint : s.Entry} {claims : Claims} {u : Uuid}
    {instant : Nat} (hminted : s.credentials.Minted s.process start earlier mint claims)
    (hempowers : s.Empowers instant claims u) : mint.before.auth.Permits u "users.write" := by
  obtain ⟨hkind, -, hpermit, hsubject⟩ := hempowers
  obtain ⟨jti, owner, email, rfl⟩ := accessClaims_of_issued (issues_of_minted hminted) hkind
  rw [Auth.subject_accessClaims] at hsubject
  rw [Auth.permit_accessClaims] at hpermit
  rwa [← Option.some.inj hsubject]

/-- A right that somebody gains is given to him by a bearer of the right to write users. -/
theorem bears_of_gain {earlier : List s.Entry} {entry : s.Entry}
    (hrun : s.Run start earlier entry.before)
    (hhandedOut : s.credentials.HandedOut earlier entry.request)
    (hprocess : s.process entry.instant entry.request entry.before = (entry.reply, entry.after))
    {u : Uuid} {permission : String} (hbefore : ¬entry.before.auth.Permits u permission)
    (hafter : entry.after.auth.Permits u permission) :
    ∃ claims appointer, s.Bears entry.instant entry.request claims ∧
      s.Empowers entry.instant claims appointer := by
  have hstate : entry.after = (s.process entry.instant entry.request entry.before).2 := by
    rw [hprocess]
  rw [hstate] at hafter
  obtain ⟨claims, hbears, hpermit⟩ := bears_of_userRecords (userRecords_of_permits hbefore hafter)
  obtain ⟨later, mint, before, appointer, -, -, hgrants⟩ := hrun.granted hhandedOut hbears
  obtain ⟨text, htext, hparse, hkind, hvalid⟩ := id hbears
  exact ⟨claims, appointer, hbears, hkind, hvalid, hpermit, hgrants.subject⟩

/-- Whoever may write users at the end has a lineage. -/
theorem Run.lineage (hrun : s.Run start history last) {u : Uuid}
    (hpermits : last.auth.Permits u "users.write") : s.Lineage start history u := by
  refine Credentials.Run.lineage (fun _ _ _ _ _ => permits_of_empowers)
    (fun earlier entry agent hearlier hhandedOut hprocess hbefore hafter => ?_) hrun hpermits
  obtain ⟨claims, appointer, hbears, hempowers⟩ :=
    bears_of_gain hearlier hhandedOut hprocess hbefore hafter
  exact ⟨claims, appointer, hbears.presents, hempowers⟩

/-- The user was given the permission by a request of this appointer, who was authorized to
write users by an entry of the history before, and has a lineage himself. -/
structure Appointed (s : Server) (start : Db) (history : List s.Entry) (u : Uuid)
    (permission : String) (appointment : s.Entry) (appointer : Uuid) : Prop where
  gained : ¬appointment.before.auth.Permits u permission ∧
    appointment.after.auth.Permits u permission
  authorized : ∃ later between before claims mint,
    history = later ++ appointment :: (between ++ mint :: before) ∧
      s.Bears appointment.instant appointment.request claims ∧
      s.Authorizes "users.write" appointment.instant claims mint appointer ∧
      s.Lineage start before appointer

/-- In every run, whoever has a permission at the end has had it from the start, or was given
it by somebody who could write users. His right goes back, through such appointments, to
somebody who could do so at the start. -/
theorem permits_lineage (hrun : s.Run start history last) {u : Uuid} {permission : String}
    (hpermits : last.auth.Permits u permission) :
    start.auth.Permits u permission ∨
      ∃ appointment appointer, s.Appointed start history u permission appointment appointer := by
  rcases Credentials.Run.gained (fun db u => db.auth.Permits u permission) hrun hpermits
    with hstart | ⟨later, appointment, earlier, hsplit, hgained⟩
  · exact .inl hstart
  · obtain ⟨hearlier, ⟨hclock, hhandedOut⟩, hprocess⟩ := Serial.entry hrun hsplit
    obtain ⟨claims, _, hbears, -, -, hpermit, -⟩ :=
      bears_of_gain hearlier hhandedOut hprocess hgained.1 hgained.2
    obtain ⟨between, mint, before, appointer, hmint, hminted, hauthorizes⟩ :=
      authorizes_of_bears hearlier hclock hhandedOut hbears hpermit
    have hlineage : s.Lineage start before appointer := Run.lineage hminted.run hauthorizes.permits
    exact .inr ⟨appointment, appointer, hgained, later, between, before, claims, mint,
      hmint ▸ hsplit, hbears, hauthorizes, hlineage⟩

end Run

end Server

namespace Sample

/-- Bob has not been an administrator from the start. -/
theorem not_permits_bob : ¬db.auth.Permits bob.id "users.write" := by
  have hroles : db.auth.liveRoles bob.id = [] := rfl
  rintro (⟨role, hrole, -⟩ | hpermission)
  · rw [hroles] at hrole
    exact absurd hrole List.not_mem_nil
  · exact absurd hpermission (by decide)

/-- Somebody has made him one. -/
theorem lineage_bob : ∃ entry appointer,
    server.Appointed db [appointment, login] bob.id "users.write" entry appointer :=
  (Server.permits_lineage run_appointment
    (.inl ⟨Auth.Sample.adminRow none, by decide, rfl⟩)).resolve_left not_permits_bob

end Sample

/-! ## Without anybody who may write users -/

namespace Server

variable {s : Server}

section Run

variable {start last : Db} {history : List s.Entry}

/-- Where nobody may write users, nobody ever may, and nobody gains a permission. -/
theorem permits_of_nobody (hrun : s.Run start history last)
    (hnobody : ∀ u, ¬start.auth.Permits u "users.write") {u : Uuid} {permission : String}
    (hpermits : last.auth.Permits u permission) : start.auth.Permits u permission := by
  rcases Credentials.Run.gained (fun db u => db.auth.Permits u permission) hrun hpermits
    with hstart | ⟨later, entry, earlier, hsplit, hbefore, hafter⟩
  · exact hstart
  · obtain ⟨hearlier, ⟨-, hhandedOut⟩, hprocess⟩ := Serial.entry hrun hsplit
    obtain ⟨claims, appointer, hbears, hempowers⟩ :=
      bears_of_gain hearlier hhandedOut hprocess hbefore hafter
    obtain ⟨_, mint, before, -, hminted⟩ :=
      Credentials.Run.minted hearlier hhandedOut hbears.presents
    have hlineage : s.Lineage start before appointer :=
      Run.lineage hminted.run (permits_of_empowers hminted hempowers)
    obtain ⟨founder, hfounder⟩ := hlineage.exists_root
    exact absurd hfounder (hnobody founder)

/-- Records that nobody may write are written by resets of passwords alone. -/
theorem resets_of_nobody (hrun : s.Run start history last)
    (hnobody : ∀ u, ¬start.auth.Permits u "users.write") {permission : String}
    (hnone : ∀ u, ¬start.auth.Permits u permission) {later earlier : List s.Entry}
    {entry : s.Entry} (hsplit : history = later ++ entry :: earlier)
    (hchanges : Changes entry.before entry.after permission) :
    permission = "users.write" ∧ s.ResetsPassword entry.instant entry.request entry.before := by
  rcases authorizes_of_changes hrun hsplit hchanges with
    ⟨_, -, _, _, _, u, -, hminted, hauthorizes⟩ | hresets
  · exact absurd (permits_of_nobody hminted.run hnobody hauthorizes.permits) (hnone u)
  · exact hresets

/-- An installation in which nobody may write users stays as it is: no run makes the first
administrator, or changes records that nobody may write. A reset with the token of a mail writes
the password of its user, and nothing else. -/
theorem unchanged_of_nobody (hrun : s.Run start history last)
    (hnobody : ∀ u, ¬start.auth.Permits u "users.write") :
    last.userRecords = start.userRecords ∧
      (∀ entry ∈ history, entry.after.userTables ≠ entry.before.userTables →
        s.ResetsPassword entry.instant entry.request entry.before) ∧
      ((∀ u, ¬start.auth.Permits u "groups.write") → last.groupRecords = start.groupRecords) := by
  have hresets : ∀ later entry earlier, history = later ++ entry :: earlier →
      entry.after.userTables ≠ entry.before.userTables →
      s.ResetsPassword entry.instant entry.request entry.before := by
    intro later entry earlier hsplit hchanges
    exact (resets_of_nobody hrun hnobody hnobody hsplit (.users hchanges)).2
  refine ⟨?_, ?_, ?_⟩
  · refine Serial.unchanged _ hrun fun later entry earlier hsplit => ?_
    by_cases htables : entry.after.userTables = entry.before.userTables
    · exact Api.Db.userRecords_of_userTables htables
    · obtain ⟨-, -, hprocess⟩ := Serial.entry hrun hsplit
      have hsame := (hresets later entry earlier hsplit htables).users
      rwa [hprocess] at hsame
  · intro entry hentry hchanges
    obtain ⟨later, earlier, hsplit⟩ := List.append_of_mem hentry
    exact hresets later entry earlier hsplit hchanges
  · intro hnone
    refine Serial.unchanged _ hrun fun later entry earlier hsplit => ?_
    by_contra hchanges
    exact nomatch (resets_of_nobody hrun hnobody hnone hsplit (.groups hchanges)).1

end Run

end Server

namespace Sample

/-- Alice signs in where there are no roles. -/
def plainLogin : server.Entry := entryAt loginAt loginRequest Api.Sample.db

theorem run_plainLogin : server.Run Api.Sample.db [plainLogin] plainLogin.after :=
  Serial.cons loginAt loginRequest Serial.nil
    ⟨fun _ hentry => absurd hentry (Option.not_mem_none _), handedOut_login⟩

/-- Nobody holds a role. -/
theorem not_permits_plain (u : Uuid) (permission : String) :
    ¬Api.Sample.db.auth.Permits u permission := by
  have hroles : Api.Sample.db.auth.liveRoles u = [] := rfl
  rintro (⟨role, hrole, -⟩ | hpermission)
  · rw [hroles] at hrole
    exact absurd hrole List.not_mem_nil
  · exact absurd (List.mem_filter.mp hpermission).1 List.not_mem_nil

theorem unchanged_plainLogin :
    plainLogin.after.userRecords = Api.Sample.db.userRecords ∧
      (∀ entry ∈ [plainLogin], entry.after.userTables ≠ entry.before.userTables →
        server.ResetsPassword entry.instant entry.request entry.before) ∧
      ((∀ u, ¬Api.Sample.db.auth.Permits u "groups.write") →
        plainLogin.after.groupRecords = Api.Sample.db.groupRecords) :=
  Server.unchanged_of_nobody run_plainLogin fun u => not_permits_plain u "users.write"

end Sample

end Skolva.Http
