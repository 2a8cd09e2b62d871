import AutoMana.Auth.Users
import AutoMana.Relational.Dict
import AutoMana.Relational.Interleaving
import AutoMana.Relational.Parts

/-!
# Roles

Admins give roles to users, take them back, and delete users. A request is admitted in one
transaction and served in another, and triggers write the audit logs beside the rows they are
about. What a trigger logs is attributed to the user that a setting of the transaction names.
-/

namespace AutoMana.Auth.Roles

open Relational Interleaving

abbrev UserId := String
abbrev RoleId := String
abbrev Timestamp := Int

inductive Role where
  | admin
  | system
  | developer
  | tester
deriving DecidableEq, Repr

def Role.value : Role → String
  | .admin => "admin"
  | .system => "system"
  | .developer => "developer"
  | .tester => "tester"

/-! ## The tables -/

/-- A row of `user_roles`, under the user and the role. -/
structure UserRole where
  assignedAt : Timestamp
  expiresAt : Option Timestamp
  effectiveFrom : Option Timestamp
deriving DecidableEq, Repr

/-- A row of `user_role_audit_logs` -/
structure RoleAudit where
  userId : UserId
  action : String
  oldRole : Option String
  oldRoleId : Option RoleId
  newRole : Option String
  newRoleId : Option RoleId
  performedBy : UserId
  performedAt : Timestamp
  reason : Option String
deriving DecidableEq, Repr

/-- A row of `user_audit_logs` -/
structure UserAudit where
  userId : UserId
  action : String
  reason : Option String
  performedBy : UserId
  performedAt : Timestamp
deriving DecidableEq, Repr

structure Directory where
  users : Users
  /-- `users.deleted_at`, where it is set. -/
  deletedAt : Table UserId Timestamp
  roles : Table RoleId String
  /-- `role VARCHAR(50) NOT NULL UNIQUE` -/
  nodup_roles : (roles.rows.map (·.2)).Nodup
  /-- `UNIQUE (user_id, role_id)` -/
  userRoles : Table (UserId × RoleId) UserRole
  roleAudit : List RoleAudit
  userAudit : List UserAudit

/-- The settings `app.*` of a transaction. -/
structure Settings where
  currentUserId : Option String
  roleChangeReason : Option String
deriving DecidableEq, Repr

/-- What the database and the connection bring to a statement. A setting that was local to an
earlier transaction of the connection reads as empty, and any other as null. -/
structure Draw where
  now : Timestamp
  uniqueId : UserId
  salt : String
  currentUserIdUsed : Bool
  roleChangeReasonUsed : Bool
deriving DecidableEq, Repr

def Draw.settings (draw : Draw) : Settings where
  currentUserId := if draw.currentUserIdUsed then some "" else none
  roleChangeReason := if draw.roleChangeReasonUsed then some "" else none

inductive RequestError where
  /-- 401 -/
  | unauthorized (detail : String)
  /-- 403 -/
  | forbidden (detail : String)
  | invalidUser (error : AuthError)
  | roleNotFound (message : String)
  | roleAssignment
  | roleRevocation
  | userError
  /-- bcrypt raises. -/
  | hash
  | notNullViolation
deriving DecidableEq

/-- `TG_OP` -/
inductive TgOp where
  | insert
  | delete
deriving DecidableEq, Repr

/-! ## The statements -/

namespace Directory

def roleId? (directory : Directory) (role : String) : Option RoleId :=
  (directory.roles.rows.find? (·.2 = role)).map (·.1)

/-- The trigger `log_user_role_change`; `none` when its insert raises. -/
def logUserRoleChange (directory : Directory) (settings : Settings) (now : Timestamp) (op : TgOp)
    (userId : UserId) (roleId : RoleId) : Option RoleAudit :=
  match settings.currentUserId with
  | none => none
  | some performedBy =>
    if performedBy = "" ∨ directory.users.table.get? performedBy = none then none
    else
      match op with
      | .insert =>
        some ⟨userId, "role assigned", none, none, directory.roles.get? roleId, some roleId,
          performedBy, now, settings.roleChangeReason⟩
      | .delete =>
        some ⟨userId, "role removed", directory.roles.get? roleId, some roleId, none, none,
          performedBy, now, settings.roleChangeReason⟩

/-- The trigger `update_audit_user_on_user_disabled`; `none` when its insert raises. -/
def logUserDisabled (directory : Directory) (settings : Settings) (now : Timestamp)
    (userId : UserId) (old new : Option Bool) : Option UserAudit :=
  match settings.currentUserId with
  | none => none
  | some performedBy =>
    if performedBy = "" ∨ directory.users.table.get? performedBy = none then none
    else
      some ⟨userId, "User Disabled Change",
        Option.map₂ (fun before after => "Disabled changed from " ++ toString before ++ " to " ++
          toString after) old new, performedBy, now⟩

/-- `RoleRepository.user_has_role`: the view has the users who are not disabled. -/
def userHasRole (directory : Directory) (userId : UserId) (role : String) : Bool :=
  (directory.users.table.get? userId).any (·.disabled = some false) &&
    directory.userRoles.rows.any fun row =>
      row.1.1 = userId && directory.roles.get? row.1.2 = some role

end Directory

/-- `disabled = TRUE` for one user -/
def disable (users : Users) (userId : UserId) : Users where
  table := users.table.mapValues fun id user =>
    { user with disabled := if id = userId then some true else user.disabled }
  nodup_usernames := by
    rw [Table.mapValues, List.map_map]
    exact users.nodup_usernames
  nodup_emails := by
    rw [Table.mapValues, List.map_map]
    exact users.nodup_emails

/-- An `INSERT` of a user, which raises when the id, the name, or the email is taken. -/
def insertUser? (users : Users) (userId : UserId) (user : User) : Option Users :=
  if hfree : users.table.get? userId = none ∧
      user.username ∉ users.table.rows.map (·.2.username) ∧
      user.email ∉ users.table.rows.map (·.2.email) then
    some {
      table := users.table.set userId user
      nodup_usernames := by
        rw [Table.rows_set_of_new hfree.1, List.map_append]
        exact users.nodup_usernames.append (List.nodup_singleton _)
          (List.disjoint_singleton.mpr hfree.2.1)
      nodup_emails := by
        rw [Table.rows_set_of_new hfree.1, List.map_append]
        exact users.nodup_emails.append (List.nodup_singleton _)
          (List.disjoint_singleton.mpr hfree.2.2) }
  else none

/-! ## The services -/

/-- The reason of a request is not passed on. -/
structure AssignRoleRequest where
  role : Role
  reason : Option String
  expiresAt : Option Timestamp
  effectiveFrom : Option Timestamp
deriving DecidableEq, Repr

structure BaseUser where
  username : String
  fullname : Option String
  email : Option String
  password : String
deriving DecidableEq, Repr

def assignRole (userId : UserId) (request : AssignRoleRequest) (assignedBy : UserId)
    (draw : Draw) (directory : Directory) : Except RequestError Directory :=
  match directory.roleId? request.role.value with
  | none => .error (.roleNotFound ("Role '" ++ request.role.value ++ "' not found"))
  | some roleId =>
    if directory.users.table.get? userId = none ∨
        (directory.userRoles.get? (userId, roleId)).isSome then .error .roleAssignment
    else
      match directory.logUserRoleChange ⟨some assignedBy, some ""⟩ draw.now .insert userId
        roleId with
      | none => .error .roleAssignment
      | some audit =>
        .ok { directory with
          userRoles := directory.userRoles.set (userId, roleId)
            ⟨draw.now, request.expiresAt, request.effectiveFrom⟩
          roleAudit := directory.roleAudit ++ [audit] }

/-- A role that the user does not have is not missed. -/
def revokeRole (userId : UserId) (role : Role) (revokedBy : UserId) (draw : Draw)
    (directory : Directory) : Except RequestError Directory :=
  match directory.roleId? role.value with
  | none => .ok directory
  | some roleId =>
    if directory.userRoles.get? (userId, roleId) = none then .ok directory
    else
      match directory.logUserRoleChange { draw.settings with currentUserId := some revokedBy }
        draw.now .delete userId roleId with
      | none => .error .roleRevocation
      | some audit =>
        .ok { directory with
          userRoles := directory.userRoles.deleteWhere fun key _ => key = (userId, roleId)
          roleAudit := directory.roleAudit ++ [audit] }

/-- The update names nobody to the trigger. -/
def deleteUser (userId : UserId) (draw : Draw) (directory : Directory) :
    Except RequestError Directory :=
  match directory.users.table.get? userId with
  | none => .ok directory
  | some user =>
    let next := { directory with
      users := disable directory.users userId
      deletedAt := directory.deletedAt.set userId draw.now }
    -- the trigger fires when `disabled` is distinct from what it was
    if user.disabled = some true then .ok next
    else
      match directory.logUserDisabled draw.settings draw.now userId user.disabled (some true) with
      | none => .error .notNullViolation
      | some audit => .ok { next with userAudit := directory.userAudit ++ [audit] }

section Libraries

variable (lib : Libraries)

def register (user : BaseUser) (draw : Draw) (directory : Directory) :
    Except RequestError (Directory × UserInDB) :=
  match lib.hashpw user.password draw.salt with
  | none => .error .hash
  | some hashedPassword =>
    match user.email with
    | none => .error .userError
    | some email =>
      let row : User := ⟨user.username, email, user.fullname, some hashedPassword, some false⟩
      match insertUser? directory.users draw.uniqueId row with
      | none => .error .userError
      | some users =>
        match modelValidate lib (draw.uniqueId, row) with
        | .error _ => .error .userError
        | .ok added => .ok ({ directory with users }, added)

/-! ## Requests -/

/-- What a caller shows: the cookie of a session of a user, or a token of a username. -/
inductive Credential where
  | session (userId : UserId)
  | token (username : String)
deriving DecidableEq, Repr

/-- `get_current_active_user` -/
def getCurrentActiveUser (directory : Directory) : Credential → Except RequestError UserInDB
  | .session userId =>
    match getById directory.users.table userId with
    | none => .error (.unauthorized "Not authenticated")
    | some user =>
      match modelValidate lib (userId, user) with
      | .error error => .error (.invalidUser error)
      | .ok validated =>
        if validated.disabled = some true then .error (.unauthorized "Account is disabled")
        else .ok validated
  | .token username =>
    match get directory.users.table username with
    | none => .error (.unauthorized "User not found")
    | some row =>
      match modelValidate lib row with
      | .error error => .error (.invalidUser error)
      | .ok user =>
        if user.disabled = some true then .error (.unauthorized "Account is disabled")
        else .ok user

/-- The requests that only admins may send. -/
inductive AdminRequest where
  | assignRole (userId : UserId) (request : AssignRoleRequest)
  | revokeRole (userId : UserId) (role : Role)
  | deleteUser (userId : UserId)
deriving DecidableEq, Repr

inductive Command where
  | register (user : BaseUser)
  | admin (credential : Credential) (request : AdminRequest)
deriving DecidableEq, Repr

/-- A request up to its next transaction. -/
inductive Request where
  | registering (user : BaseUser)
  | authenticating (credential : Credential) (request : AdminRequest)
  /-- `require_admin` -/
  | admitting (caller : UserId) (request : AdminRequest)
  | serving (caller : UserId) (request : AdminRequest)
  | replied (user : Option UserInDB)
  | failed (error : RequestError)
deriving DecidableEq

def AdminRequest.serve (caller : UserId) (draw : Draw) (directory : Directory) :
    AdminRequest → Except RequestError Directory
  | .assignRole userId request => Roles.assignRole userId request caller draw directory
  | .revokeRole userId role => Roles.revokeRole userId role caller draw directory
  | .deleteUser userId => Roles.deleteUser userId draw directory

def turn (directory : Directory) (request : Request) (draw : Draw) : Directory × Request :=
  match request with
  | .registering user =>
    match register lib user draw directory with
    | .error error => (directory, .failed error)
    | .ok done => (done.1, .replied (some done.2))
  | .authenticating credential request =>
    match getCurrentActiveUser lib directory credential with
    | .error error => (directory, .failed error)
    | .ok user => (directory, .admitting user.uniqueId request)
  | .admitting caller request =>
    if directory.userHasRole caller "admin" then (directory, .serving caller request)
    else (directory, .failed (.forbidden "Admin access required"))
  | .serving caller request =>
    match request.serve caller draw directory with
    | .error error => (directory, .failed error)
    | .ok next => (next, .replied none)
  | .replied user => (directory, .replied user)
  | .failed error => (directory, .failed error)

def system : System Directory Request Command Draw where
  start
    | _, .register user => .registering user
    | _, .admin credential request => .authenticating credential request
  turn := turn lib

end Libraries

/-! ## What a turn does -/

/-- The role that a row of the log gives to a user or takes away. -/
def RoleAudit.change (audit : RoleAudit) : Option ((UserId × RoleId) × Bool) :=
  match audit.newRoleId with
  | some roleId => some ((audit.userId, roleId), true)
  | none => audit.oldRoleId.map fun roleId => ((audit.userId, roleId), false)

/-- The tables after a turn, and the caller in whose name it is. -/
inductive Does (directory : Directory) : Option UserId → Directory → Prop
  | nothing {caller : Option UserId} : Does directory caller directory
  | register {caller : Option UserId} {userId : UserId} {user : User} {users : Users}
      (hnew : directory.users.table.get? userId = none)
      (husers : users.table = directory.users.table.set userId user) :
      Does directory caller { directory with users }
  | assign {caller : UserId} {key : UserId × RoleId} {audit : RoleAudit} {role : UserRole}
      (hfree : directory.userRoles.get? key = none) (haudit : audit.change = some (key, true))
      (hcaller : audit.performedBy = caller) :
      Does directory (some caller) { directory with
        userRoles := directory.userRoles.set key role
        roleAudit := directory.roleAudit ++ [audit] }
  | revoke {caller : UserId} {key : UserId × RoleId} {audit : RoleAudit}
      (haudit : audit.change = some (key, false)) (hcaller : audit.performedBy = caller) :
      Does directory (some caller) { directory with
        userRoles := directory.userRoles.deleteWhere fun other _ => other = key
        roleAudit := directory.roleAudit ++ [audit] }
  | delete {caller : Option UserId} {userId : UserId} {user : User} {now : Timestamp}
      (hstored : directory.users.table.get? userId = some user)
      (hdisabled : user.disabled = some true) :
      Does directory caller { directory with
        users := disable directory.users userId
        deletedAt := directory.deletedAt.set userId now }

section Turns

variable {directory next : Directory}

theorem logUserRoleChange_eq_some {settings : Settings} {now : Timestamp} {op : TgOp}
    {userId : UserId} {roleId : RoleId} {audit : RoleAudit}
    (haudit : directory.logUserRoleChange settings now op userId roleId = some audit) :
    audit.change = some ((userId, roleId), decide (op = .insert)) ∧
      settings.currentUserId = some audit.performedBy := by
  rw [Directory.logUserRoleChange] at haudit
  cases hsetting : settings.currentUserId with
  | none => simp [hsetting] at haudit
  | some performedBy =>
    rw [hsetting] at haudit
    simp only at haudit
    split_ifs at haudit
    cases op <;> rw [← Option.some.inj haudit] <;> exact ⟨rfl, rfl⟩

/-- Nobody is named by the settings that a transaction finds. -/
theorem logUserDisabled_settings (directory : Directory) (draw : Draw) (userId : UserId)
    (old new : Option Bool) :
    directory.logUserDisabled draw.settings draw.now userId old new = none := by
  rw [Directory.logUserDisabled, Draw.settings]
  cases draw.currentUserIdUsed <;> simp

theorem does_assignRole {userId caller : UserId} {request : AssignRoleRequest} {draw : Draw}
    (hnext : assignRole userId request caller draw directory = .ok next) :
    Does directory (some caller) next := by
  rw [assignRole] at hnext
  cases hrole : directory.roleId? request.role.value with
  | none => simp [hrole] at hnext
  | some roleId =>
    rw [hrole] at hnext
    simp only at hnext
    split_ifs at hnext with hrefused
    cases haudit : directory.logUserRoleChange ⟨some caller, some ""⟩ draw.now .insert userId
        roleId with
    | none => simp [haudit] at hnext
    | some audit =>
      rw [haudit] at hnext
      obtain ⟨hchange, hsetting⟩ := logUserRoleChange_eq_some haudit
      rw [← Except.ok.inj hnext]
      refine .assign ?_ hchange (Option.some.inj hsetting).symm
      exact Option.not_isSome_iff_eq_none.mp fun hheld => hrefused (Or.inr hheld)

theorem does_revokeRole {userId caller : UserId} {role : Role} {draw : Draw}
    (hnext : revokeRole userId role caller draw directory = .ok next) :
    Does directory (some caller) next := by
  rw [revokeRole] at hnext
  cases hrole : directory.roleId? role.value with
  | none =>
    rw [hrole] at hnext
    rw [← Except.ok.inj hnext]
    exact .nothing
  | some roleId =>
    rw [hrole] at hnext
    simp only at hnext
    split_ifs at hnext
    · rw [← Except.ok.inj hnext]
      exact .nothing
    · cases haudit : directory.logUserRoleChange { draw.settings with currentUserId := some caller }
          draw.now .delete userId roleId with
      | none => simp [haudit] at hnext
      | some audit =>
        rw [haudit] at hnext
        obtain ⟨hchange, hsetting⟩ := logUserRoleChange_eq_some haudit
        rw [← Except.ok.inj hnext]
        exact .revoke hchange (Option.some.inj hsetting).symm

/-- Only a user who is disabled is deleted. -/
theorem deleteUser_of_enabled {userId : UserId} {user : User}
    (hstored : directory.users.table.get? userId = some user) (henabled : user.disabled ≠ some true)
    (draw : Draw) : deleteUser userId draw directory = .error .notNullViolation := by
  simp only [deleteUser, hstored, if_neg henabled, logUserDisabled_settings]

theorem does_deleteUser {userId : UserId} {caller : Option UserId} {draw : Draw}
    (hnext : deleteUser userId draw directory = .ok next) : Does directory caller next := by
  cases hstored : directory.users.table.get? userId with
  | none =>
    rw [deleteUser, hstored] at hnext
    rw [← Except.ok.inj hnext]
    exact .nothing
  | some user =>
    by_cases hdisabled : user.disabled = some true
    · simp only [deleteUser, hstored, if_pos hdisabled] at hnext
      rw [← Except.ok.inj hnext]
      exact .delete hstored hdisabled
    · rw [deleteUser_of_enabled hstored hdisabled] at hnext
      cases hnext

theorem insertUser?_eq_some {users added : Users} {userId : UserId} {user : User}
    (hadded : insertUser? users userId user = some added) :
    users.table.get? userId = none ∧ added.table = users.table.set userId user := by
  rw [insertUser?] at hadded
  split_ifs at hadded with hfree
  rw [← Option.some.inj hadded]
  exact ⟨hfree.1, rfl⟩

theorem does_register {lib : Libraries} {user : BaseUser} {draw : Draw}
    {done : Directory × UserInDB} {caller : Option UserId}
    (hdone : register lib user draw directory = .ok done) : Does directory caller done.1 := by
  rw [register] at hdone
  cases hhash : lib.hashpw user.password draw.salt with
  | none => simp [hhash] at hdone
  | some hashedPassword =>
    cases hemail : user.email with
    | none => simp [hhash, hemail] at hdone
    | some email =>
      simp only [hhash, hemail] at hdone
      split at hdone
      · cases hdone
      · rename_i users hinsert
        split at hdone
        · cases hdone
        · obtain ⟨hnew, husers⟩ := insertUser?_eq_some hinsert
          rw [← Except.ok.inj hdone]
          exact .register hnew husers

/-- Who is served by a request. -/
def Request.caller? : Request → Option UserId
  | .serving caller _ => some caller
  | _ => none

theorem does_turn (lib : Libraries) (directory : Directory) (request : Request) (draw : Draw) :
    Does directory request.caller? (turn lib directory request draw).1 := by
  cases request with
  | registering user =>
    rw [turn]
    cases hnext : register lib user draw directory with
    | error error => exact .nothing
    | ok done => exact does_register hnext
  | authenticating credential request =>
    rw [turn]
    split <;> exact .nothing
  | admitting caller request =>
    rw [turn]
    split_ifs <;> exact .nothing
  | serving caller request =>
    rw [turn]
    cases hnext : request.serve caller draw directory with
    | error error => exact .nothing
    | ok next =>
      cases request with
      | assignRole userId request => exact does_assignRole hnext
      | revokeRole userId role => exact does_revokeRole hnext
      | deleteUser userId => exact does_deleteUser hnext
  | replied | failed => exact .nothing

theorem Does.roles_eq {caller : Option UserId} (hdoes : Does directory caller next) :
    next.roles = directory.roles := by
  cases hdoes <;> rfl

/-- A turn logs at most one row, in the caller's name. -/
theorem Does.roleAudit_eq {caller : Option UserId} (hdoes : Does directory caller next) :
    next.roleAudit = directory.roleAudit ∨ ∃ audit, caller = some audit.performedBy ∧
      next.roleAudit = directory.roleAudit ++ [audit] := by
  cases hdoes with
  | nothing | register | delete => exact Or.inl rfl
  | assign _ _ hcaller | revoke _ hcaller => exact Or.inr ⟨_, congrArg some hcaller.symm, rfl⟩

/-- A user who is not disabled stays as she is. -/
theorem Does.user_eq {caller : Option UserId} (hdoes : Does directory caller next)
    {userId : UserId} {user : User} (hstored : directory.users.table.get? userId = some user)
    (henabled : user.disabled ≠ some true) :
    next.users.table.get? userId = some user ∧
      next.deletedAt.get? userId = directory.deletedAt.get? userId := by
  cases hdoes with
  | nothing | assign | revoke => exact ⟨hstored, rfl⟩
  | register hnew husers =>
    rw [husers, Table.get?_set, if_neg (Table.ne_of_new hnew hstored)]
    exact ⟨hstored, rfl⟩
  | @delete _ deleted _ _ hdeleted hdisabled =>
    have hne : userId ≠ deleted := by
      rintro rfl
      rw [hstored] at hdeleted
      exact henabled (Option.some.inj hdeleted ▸ hdisabled)
    simp [disable, hstored, hne]

end Turns

/-- Who is served by a move. -/
def moveCaller? (pool : Pool Directory Request) : Move Command Draw → Option UserId
  | .start _ => none
  | .turn position _ => pool.threads[position]?.bind Request.caller?

theorem does_step (lib : Libraries) (pool : Pool Directory Request) (move : Move Command Draw) :
    Does pool.shared (moveCaller? pool move) ((system lib).step pool move).shared := by
  cases move with
  | start command => exact .nothing
  | turn position draw =>
    rw [moveCaller?]
    cases hthread : pool.threads[position]? with
    | none =>
      rw [System.step_turn_of_none hthread]
      exact .nothing
    | some request =>
      rw [System.step_turn hthread]
      exact does_turn lib pool.shared request draw

theorem serving_of_moveCaller? {pool : Pool Directory Request} {move : Move Command Draw}
    {caller : UserId} (hcaller : moveCaller? pool move = some caller) :
    ∃ request, .serving caller request ∈ pool.threads := by
  cases move with
  | start command => cases hcaller
  | turn position draw =>
    obtain ⟨thread, hthread, hserved⟩ := Option.bind_eq_some_iff.mp hcaller
    cases thread with
    | serving served request =>
      obtain rfl := Option.some.inj hserved
      exact ⟨request, List.mem_of_getElem? hthread⟩
    | registering | authenticating | admitting | replied | failed => cases hserved

/-- Whom a request serves is who it served before, or an admin of the state before. -/
theorem serving_step {lib : Libraries} {pool : Pool Directory Request} {move : Move Command Draw}
    {caller : UserId} {request : AdminRequest}
    (hserving : .serving caller request ∈ ((system lib).step pool move).threads) :
    .serving caller request ∈ pool.threads ∨ pool.shared.userHasRole caller "admin" = true := by
  obtain ⟨elsewhere, helsewhere⟩ := List.mem_iff_getElem?.mp hserving
  cases move with
  | start command =>
    rcases getElem?_start helsewhere with hold | hnew
    · exact Or.inl (List.mem_of_getElem? hold)
    · cases command <;> cases hnew
  | turn position draw =>
    cases hthread : pool.threads[position]? with
    | none =>
      rw [System.step_turn_of_none hthread] at hserving
      exact Or.inl hserving
    | some thread =>
      rcases getElem?_turn hthread helsewhere with ⟨-, hnew⟩ | ⟨-, hold⟩
      · right
        cases thread with
        | admitting admitted request =>
          simp only [system, turn] at hnew
          split_ifs at hnew with hadmin
          rw [(Request.serving.inj hnew).1]
          exact hadmin
        | registering | authenticating | serving =>
          simp only [system, turn] at hnew
          split at hnew <;> cases hnew
        | replied | failed => cases hnew
      · exact Or.inl (List.mem_of_getElem? hold)

/-! ## The log tells who has which role -/

/-- Whether a user has a role after the changes of a log. -/
def heldAfter (log : List RoleAudit) (key : UserId × RoleId) : Bool :=
  log.foldl (fun held audit =>
    match audit.change with
    | some change => if change.1 = key then change.2 else held
    | none => held) false

theorem heldAfter_concat (log : List RoleAudit) {audit : RoleAudit} {key : UserId × RoleId}
    {held : Bool} (haudit : audit.change = some (key, held)) (other : UserId × RoleId) :
    heldAfter (log ++ [audit]) other = if key = other then held else heldAfter log other := by
  simp [heldAfter, haudit]

/-- The users have the roles that the log gave them and did not take away. -/
def Audited (directory : Directory) : Prop :=
  ∀ key, (directory.userRoles.get? key).isSome = heldAfter directory.roleAudit key

theorem Does.audited {directory next : Directory} {caller : Option UserId}
    (hdoes : Does directory caller next) (haudited : Audited directory) : Audited next := by
  cases hdoes with
  | nothing | register | delete => exact haudited
  | @assign _ key _ _ _ haudit _ =>
    intro other
    rw [heldAfter_concat _ haudit, Table.get?_set, ← haudited other]
    by_cases hkey : other = key
    · rw [if_pos hkey, if_pos hkey.symm]
      rfl
    · rw [if_neg hkey, if_neg (Ne.symm hkey)]
  | @revoke _ key _ haudit _ =>
    intro other
    rw [heldAfter_concat _ haudit, Table.get?_deleteWhere, ← haudited other]
    by_cases hkey : other = key
    · rw [if_pos hkey.symm]
      cases directory.userRoles.get? other <;> simp [hkey]
    · rw [if_neg (Ne.symm hkey)]
      cases directory.userRoles.get? other <;> simp [hkey]

/-- Rows are only added to the log, and it tells at any time who has which role. -/
theorem roles_audited (lib : Libraries) {pool : Pool Directory Request}
    (haudited : Audited pool.shared) (moves : List (Move Command Draw)) :
    ∀ next ∈ Run.visited (system lib).step pool moves,
      Audited next.shared ∧ pool.shared.roleAudit <+: next.shared.roleAudit := by
  refine Run.forall_visited_of_step (fun next move hnext => ?_) moves ⟨haudited, List.prefix_rfl⟩
  have hdoes := does_step lib next move
  refine ⟨hdoes.audited hnext.1, hnext.2.trans ?_⟩
  rcases hdoes.roleAudit_eq with hsame | ⟨audit, -, hlogged⟩
  · rw [hsame]
  · rw [hlogged]
    exact List.prefix_append _ _

section Sample

def sampleDirectory : Directory where
  users := adaAndMallory
  deletedAt := .empty
  roles := ⟨[("a", "admin"), ("t", "tester")], by decide⟩
  nodup_roles := by decide
  userRoles := ⟨[(("1", "a"), ⟨0, none, none⟩)], by decide⟩
  roleAudit := [⟨"1", "role assigned", none, none, some "admin", some "a", "1", 0, none⟩]
  userAudit := []

def sampleDraw : Draw := ⟨7, "3", "", false, false⟩

/-- An admin gives a role to a user, and then tries to delete her. -/
def sampleMoves : List (Move Command Draw) :=
  .start (.admin (.token "ada") (.assignRole "2" ⟨.tester, none, none, none⟩)) ::
    .start (.admin (.session "1") (.deleteUser "2")) ::
    [0, 0, 0, 1, 1].map fun position => .turn position sampleDraw

def samplePool : Pool Directory Request := ⟨sampleDirectory, []⟩

theorem audited_sample : Audited sampleDirectory := by
  rintro ⟨userId, roleId⟩
  by_cases hkey : (userId, roleId) = ("1", "a")
  · rw [hkey]
    decide
  · have hnone : sampleDirectory.userRoles.get? (userId, roleId) = none :=
      Table.lookup_eq_none_of_notMem (by simpa [sampleDirectory] using hkey)
    rw [hnone]
    simp [heldAfter, sampleDirectory, RoleAudit.change, Ne.symm hkey]

theorem roles_audited_assigned :
    Audited samplePool.shared ∧ ∀ next ∈ Run.visited (system plainLibraries).step samplePool
      sampleMoves, Audited next.shared ∧ samplePool.shared.roleAudit <+: next.shared.roleAudit :=
  ⟨audited_sample, roles_audited plainLibraries audited_sample sampleMoves⟩

end Sample

/-! ## Who is not disabled stays -/

/-- No request disables or deletes a user who is not disabled: the trigger has nobody to
attribute it to, so that the deletion raises. -/
theorem accounts_kept (lib : Libraries) {pool : Pool Directory Request} {userId : UserId}
    {user : User} (hstored : pool.shared.users.table.get? userId = some user)
    (henabled : user.disabled ≠ some true) (moves : List (Move Command Draw)) :
    ∀ next ∈ Run.visited (system lib).step pool moves,
      (next.shared.users.table.get? userId = some user ∧
        next.shared.deletedAt.get? userId = pool.shared.deletedAt.get? userId) ∧
      ∀ position caller draw,
        next.threads[position]? = some (.serving caller (.deleteUser userId)) →
          (system lib).step next (.turn position draw) =
            ⟨next.shared, next.threads.set position (.failed .notNullViolation)⟩ := by
  have hkept : ∀ next ∈ Run.visited (system lib).step pool moves,
      next.shared.users.table.get? userId = some user ∧
        next.shared.deletedAt.get? userId = pool.shared.deletedAt.get? userId := by
    refine Run.forall_visited_of_step (fun next move hnext => ?_) moves ⟨hstored, rfl⟩
    obtain ⟨hsame, hdeleted⟩ := (does_step lib next move).user_eq hnext.1 henabled
    exact ⟨hsame, hdeleted.trans hnext.2⟩
  intro next hnext
  refine ⟨hkept next hnext, fun position caller draw hthread => ?_⟩
  have hfails := deleteUser_of_enabled (hkept next hnext).1 henabled draw
  rw [System.step_turn hthread]
  simp only [system, turn, AdminRequest.serve, hfails]

theorem accounts_kept_mallory :
    mallory.disabled ≠ some true ∧ ∀ next ∈ Run.visited (system plainLibraries).step samplePool
      sampleMoves, (next.shared.users.table.get? "2" = some mallory ∧
        next.shared.deletedAt.get? "2" = none) ∧
      ∀ position caller draw,
        next.threads[position]? = some (.serving caller (.deleteUser "2")) →
          (system plainLibraries).step next (.turn position draw) =
            ⟨next.shared, next.threads.set position (.failed .notNullViolation)⟩ :=
  ⟨by decide, @accounts_kept plainLibraries samplePool "2" mallory rfl (by decide) sampleMoves⟩

/-! ## Who gives roles -/

section Authority

variable {lib : Libraries} {start : Pool Directory Request}

/-- Before some of the moves a condition held of the state. -/
def Earlier (lib : Libraries) (start : Pool Directory Request) (condition : Directory → Prop)
    (moves : List (Move Command Draw)) : Prop :=
  ∃ earlier later, moves = earlier ++ later ∧
    condition (earlier.foldl (system lib).step start).shared

theorem Earlier.concat {condition : Directory → Prop} {moves : List (Move Command Draw)}
    (hearlier : Earlier lib start condition moves) (move : Move Command Draw) :
    Earlier lib start condition (moves ++ [move]) := by
  obtain ⟨earlier, later, rfl, hcondition⟩ := hearlier
  exact ⟨earlier, later ++ [move], List.append_assoc _ _ _, hcondition⟩

/-- A state before which nobody's roles were logged beyond a row, and someone was an admin. -/
def AdminBefore (i : Nat) (userId : UserId) (directory : Directory) : Prop :=
  directory.userHasRole userId "admin" = true ∧ directory.roleAudit.length ≤ i

theorem length_roleAudit_le (lib : Libraries) (pool : Pool Directory Request)
    (move : Move Command Draw) :
    pool.shared.roleAudit.length ≤ ((system lib).step pool move).shared.roleAudit.length := by
  rcases (does_step lib pool move).roleAudit_eq with hsame | ⟨audit, -, hlogged⟩
  · rw [hsame]
  · rw [hlogged, List.length_append]
    exact Nat.le_add_right _ _

/-- Whom a request serves was an admin at some time. -/
theorem serving_earlier (hidle : start.threads = []) (moves : List (Move Command Draw)) :
    ∀ caller request, .serving caller request ∈ (moves.foldl (system lib).step start).threads →
      Earlier lib start
        (AdminBefore (moves.foldl (system lib).step start).shared.roleAudit.length caller)
        moves := by
  induction moves using List.reverseRecOn with
  | nil =>
    intro caller request hserving
    rw [List.foldl_nil, hidle] at hserving
    cases hserving
  | append_singleton moves move ih =>
    intro caller request hserving
    rw [List.foldl_concat] at hserving ⊢
    have hle := length_roleAudit_le lib (moves.foldl (system lib).step start) move
    apply Earlier.concat
    rcases serving_step hserving with hold | hadmin
    · obtain ⟨earlier, later, hmoves, hwas, hlength⟩ := ih caller request hold
      exact ⟨earlier, later, hmoves, hwas, hlength.trans hle⟩
    · exact ⟨moves, [], (List.append_nil _).symm, hadmin, hle⟩

/-- Whoever a row of the log is attributed to was an admin, and not disabled, at some time
before it was logged. She need not be one any more when it is. -/
theorem logged_by_admins (lib : Libraries) {start : Pool Directory Request}
    (hidle : start.threads = []) (moves : List (Move Command Draw)) {i : Nat} {audit : RoleAudit}
    (hnew : start.shared.roleAudit.length ≤ i)
    (haudit : (moves.foldl (system lib).step start).shared.roleAudit[i]? = some audit) :
    Earlier lib start (AdminBefore i audit.performedBy) moves := by
  induction moves using List.reverseRecOn with
  | nil =>
    rw [List.foldl_nil, List.getElem?_eq_none hnew] at haudit
    cases haudit
  | append_singleton moves move ih =>
    rw [List.foldl_concat] at haudit
    apply Earlier.concat
    rcases (does_step lib (moves.foldl (system lib).step start) move).roleAudit_eq with
      hsame | ⟨logged, hcaller, hlogged⟩
    · rw [hsame] at haudit
      exact ih haudit
    · rw [hlogged, List.getElem?_append] at haudit
      split_ifs at haudit with hold
      · exact ih haudit
      · rw [List.getElem?_singleton] at haudit
        split_ifs at haudit with hlast
        obtain rfl := Option.some.inj haudit
        obtain ⟨request, hserving⟩ := serving_of_moveCaller? hcaller
        obtain ⟨earlier, later, hmoves, hwas, hlength⟩ :=
          serving_earlier hidle moves logged.performedBy request hserving
        exact ⟨earlier, later, hmoves, hwas, hlength.trans (Nat.le_of_not_lt hold)⟩

theorem logged_by_admins_ada :
    ∃ audit, (sampleMoves.foldl (system plainLibraries).step samplePool).shared.roleAudit[1]? =
      some audit ∧ Earlier plainLibraries samplePool (AdminBefore 1 audit.performedBy)
        sampleMoves := by
  have haudit : (sampleMoves.foldl (system plainLibraries).step samplePool).shared.roleAudit[1]? =
      some ⟨"2", "role assigned", none, none, some "tester", some "t", "1", 7, some ""⟩ := by
    decide +kernel
  exact ⟨_, haudit, logged_by_admins plainLibraries rfl sampleMoves (by decide) haudit⟩

/-- Who is an admin at the root, or by a row of the log that is attributed to someone who was
one by the rows before it. -/
inductive Descends (roots : UserId → Prop) (adminRole : RoleId) : List RoleAudit → UserId → Prop
  | root {log : List RoleAudit} {userId : UserId} (hroot : roots userId) :
      Descends roots adminRole log userId
  | assigned {earlier later : List RoleAudit} {audit : RoleAudit} {userId : UserId}
      (hassigned : audit.change = some ((userId, adminRole), true))
      (hby : Descends roots adminRole earlier audit.performedBy) :
      Descends roots adminRole (earlier ++ audit :: later) userId

theorem Descends.append {roots : UserId → Prop} {adminRole : RoleId} {log : List RoleAudit}
    {userId : UserId} (hdescends : Descends roots adminRole log userId) (more : List RoleAudit) :
    Descends roots adminRole (log ++ more) userId := by
  cases hdescends with
  | root hroot => exact .root hroot
  | assigned hassigned hby =>
    rw [List.append_assoc, List.cons_append]
    exact .assigned hassigned hby

/-- The role of the admins is the one of that name. -/
theorem held_of_userHasRole {directory : Directory} {adminRole : RoleId} {role : String}
    (hrole : directory.roles.get? adminRole = some role) {userId : UserId}
    (hadmin : directory.userHasRole userId role = true) :
    (directory.userRoles.get? (userId, adminRole)).isSome := by
  rw [Directory.userHasRole, Bool.and_eq_true, List.any_eq_true] at hadmin
  obtain ⟨-, ⟨⟨holder, roleId⟩, grant⟩, hrow, hnamed⟩ := hadmin
  rw [Bool.and_eq_true, decide_eq_true_eq, decide_eq_true_eq] at hnamed
  obtain ⟨rfl, hsame⟩ := hnamed
  rw [Table.key_unique directory.nodup_roles hrole hsame]
  exact Option.isSome_of_eq_some ((Table.mem_rows_iff _ _ _).mp hrow)

/-- The logged rows of a run make admins only of those who descend from the admins before it. -/
structure Authorized (start : Directory) (adminRole : RoleId) (logged : List RoleAudit)
    (pool : Pool Directory Request) : Prop where
  roles : pool.shared.roles = start.roles
  roleAudit : pool.shared.roleAudit = start.roleAudit ++ logged
  held : ∀ userId, (pool.shared.userRoles.get? (userId, adminRole)).isSome →
    Descends (fun root => (start.userRoles.get? (root, adminRole)).isSome) adminRole logged userId
  serving : ∀ caller request, .serving caller request ∈ pool.threads →
    Descends (fun root => (start.userRoles.get? (root, adminRole)).isSome) adminRole logged caller

theorem Authorized.step (lib : Libraries) {start : Directory} {adminRole : RoleId}
    (hadmin : start.roles.get? adminRole = some "admin") {logged : List RoleAudit}
    {pool : Pool Directory Request} (hpool : Authorized start adminRole logged pool)
    (move : Move Command Draw) :
    ∃ more, Authorized start adminRole (logged ++ more) ((system lib).step pool move) := by
  have hroles := (does_step lib pool move).roles_eq.trans hpool.roles
  have hserving : ∀ caller request,
      .serving caller request ∈ ((system lib).step pool move).threads →
        Descends (fun root => (start.userRoles.get? (root, adminRole)).isSome) adminRole logged
          caller := by
    intro caller request hmem
    rcases serving_step hmem with hold | hwas
    · exact hpool.serving caller request hold
    · exact hpool.held caller (held_of_userHasRole (hpool.roles ▸ hadmin) hwas)
  have hdoes := does_step lib pool move
  generalize hcaller : moveCaller? pool move = caller at hdoes
  generalize hstep : ((system lib).step pool move).shared = next at hdoes
  cases hdoes with
  | nothing | register | delete =>
    refine ⟨[], ?_⟩
    rw [List.append_nil]
    exact ⟨hroles, by rw [hstep, ← hpool.roleAudit], by rw [hstep]; exact hpool.held, hserving⟩
  | @assign served key audit role hfree haudit hby =>
    refine ⟨[audit], hroles, by rw [hstep, hpool.roleAudit, List.append_assoc], ?_,
      fun caller request hmem => (hserving caller request hmem).append _⟩
    intro userId hheld
    rw [hstep, Table.get?_set] at hheld
    split_ifs at hheld with hkey
    · obtain ⟨request, hmem⟩ := serving_of_moveCaller? hcaller
      exact .assigned (hkey ▸ haudit) (hby ▸ hpool.serving served request hmem)
    · exact (hpool.held userId hheld).append _
  | @revoke served key audit haudit hby =>
    refine ⟨[audit], hroles, by rw [hstep, hpool.roleAudit, List.append_assoc], ?_,
      fun caller request hmem => (hserving caller request hmem).append _⟩
    intro userId hheld
    rw [hstep, Table.get?_deleteWhere] at hheld
    exact (hpool.held userId (Option.isSome_of_isSome_filter _ _ hheld)).append _

/-- Every admin descends from those before the run, by the rows that the run has logged. -/
theorem admins_descend (lib : Libraries) {start : Pool Directory Request} {adminRole : RoleId}
    (hidle : start.threads = []) (hadmin : start.shared.roles.get? adminRole = some "admin")
    (moves : List (Move Command Draw)) :
    ∃ logged, (moves.foldl (system lib).step start).shared.roleAudit =
        start.shared.roleAudit ++ logged ∧
      ∀ userId, ((moves.foldl (system lib).step start).shared.userRoles.get?
          (userId, adminRole)).isSome →
        Descends (fun root => (start.shared.userRoles.get? (root, adminRole)).isSome) adminRole
          logged userId := by
  have hstart : Authorized start.shared adminRole [] start :=
    ⟨rfl, (List.append_nil _).symm, fun _ hheld => .root hheld,
      fun caller request hserving => by rw [hidle] at hserving; cases hserving⟩
  have hrun : ∀ pool ∈ Run.visited (system lib).step start moves,
      ∃ logged, Authorized start.shared adminRole logged pool := by
    refine Run.forall_visited_of_step (fun pool move hpool => ?_) moves ⟨[], hstart⟩
    obtain ⟨logged, hauthorized⟩ := hpool
    obtain ⟨more, hnext⟩ := hauthorized.step lib hadmin move
    exact ⟨logged ++ more, hnext⟩
  obtain ⟨logged, hauthorized⟩ := hrun _ (Run.foldl_mem_visited _ start moves)
  exact ⟨logged, hauthorized.roleAudit, hauthorized.held⟩

theorem admins_descend_ada :
    ∃ logged, (sampleMoves.foldl (system plainLibraries).step samplePool).shared.roleAudit =
        samplePool.shared.roleAudit ++ logged ∧
      ∀ userId, ((sampleMoves.foldl (system plainLibraries).step samplePool).shared.userRoles.get?
          (userId, "a")).isSome →
        Descends (fun root => (samplePool.shared.userRoles.get? (root, "a")).isSome) "a"
          logged userId :=
  admins_descend plainLibraries rfl (by decide) sampleMoves

end Authority

/-! ## The dates of a role -/

def UserRole.undated (role : UserRole) : UserRole :=
  { role with expiresAt := none, effectiveFrom := none }

/-- The same without the dates from which and until which the roles are to hold. -/
def Directory.undated (directory : Directory) : Directory :=
  { directory with userRoles := directory.userRoles.mapValues fun _ => UserRole.undated }

def AdminRequest.undated : AdminRequest → AdminRequest
  | .assignRole userId request =>
    .assignRole userId { request with expiresAt := none, effectiveFrom := none }
  | .revokeRole userId role => .revokeRole userId role
  | .deleteUser userId => .deleteUser userId

def Request.undated : Request → Request
  | .registering user => .registering user
  | .authenticating credential request => .authenticating credential request.undated
  | .admitting caller request => .admitting caller request.undated
  | .serving caller request => .serving caller request.undated
  | .replied user => .replied user
  | .failed error => .failed error

def undatedPool (pool : Pool Directory Request) : Pool Directory Request :=
  ⟨pool.shared.undated, pool.threads.map Request.undated⟩

def undatedMove : Move Command Draw → Move Command Draw
  | .start (.register user) => .start (.register user)
  | .start (.admin credential request) => .start (.admin credential request.undated)
  | .turn position draw => .turn position draw

section Undated

variable (directory : Directory)

theorem undated_set {table : Table (UserId × RoleId) UserRole} {key : UserId × RoleId}
    (hnew : table.get? key = none) (role : UserRole) :
    (table.set key role).mapValues (fun _ => UserRole.undated) =
      (table.mapValues fun _ => UserRole.undated).set key role.undated := by
  have hundated : (table.mapValues fun _ => UserRole.undated).get? key = none := by
    rw [Table.get?_mapValues, hnew, Option.map_none]
  apply Table.eq_of_rows
  change (table.set key role).rows.map _ = _
  rw [Table.rows_set_of_new hundated, Table.rows_set_of_new hnew, List.map_append]
  rfl

theorem undated_deleteWhere (table : Table (UserId × RoleId) UserRole) (key : UserId × RoleId) :
    (table.deleteWhere fun other _ => other = key).mapValues (fun _ => UserRole.undated) =
      (table.mapValues fun _ => UserRole.undated).deleteWhere fun other _ => other = key := by
  apply Table.eq_of_rows
  simp only [Table.mapValues, Table.deleteWhere, List.filter_map]
  rfl

/-- The dates of a role are not read. -/
theorem userHasRole_undated (userId : UserId) (role : String) :
    directory.undated.userHasRole userId role = directory.userHasRole userId role := by
  simp only [Directory.userHasRole, Directory.undated, Table.mapValues, List.any_map]
  rfl

@[simp] theorem roleId?_undated (role : String) :
    directory.undated.roleId? role = directory.roleId? role := rfl

@[simp] theorem users_undated : directory.undated.users = directory.users := rfl

@[simp] theorem logUserRoleChange_undated (settings : Settings) (now : Timestamp) (op : TgOp)
    (userId : UserId) (roleId : RoleId) :
    directory.undated.logUserRoleChange settings now op userId roleId =
      directory.logUserRoleChange settings now op userId roleId := rfl

@[simp] theorem logUserDisabled_undated (settings : Settings) (now : Timestamp) (userId : UserId)
    (old new : Option Bool) : directory.undated.logUserDisabled settings now userId old new =
      directory.logUserDisabled settings now userId old new := rfl

@[simp] theorem get?_userRoles_undated (key : UserId × RoleId) :
    directory.undated.userRoles.get? key = (directory.userRoles.get? key).map UserRole.undated :=
  Table.get?_mapValues _ _ _

theorem assignRole_undated (userId caller : UserId) (request : AssignRoleRequest) (draw : Draw) :
    assignRole userId { request with expiresAt := none, effectiveFrom := none } caller draw
        directory.undated =
      (assignRole userId request caller draw directory).map Directory.undated := by
  simp only [assignRole, roleId?_undated, users_undated, logUserRoleChange_undated,
    get?_userRoles_undated, Option.isSome_map]
  cases directory.roleId? request.role.value with
  | none => rfl
  | some roleId =>
    simp only
    split_ifs with hrefused
    · rfl
    · have hfree : directory.userRoles.get? (userId, roleId) = none :=
        Option.not_isSome_iff_eq_none.mp fun hheld => hrefused (Or.inr hheld)
      cases directory.logUserRoleChange ⟨some caller, some ""⟩ draw.now .insert userId roleId with
      | none => rfl
      | some audit =>
        simp only [Except.map, Directory.undated, undated_set hfree]
        rfl

theorem revokeRole_undated (userId caller : UserId) (role : Role) (draw : Draw) :
    revokeRole userId role caller draw directory.undated =
      (revokeRole userId role caller draw directory).map Directory.undated := by
  simp only [revokeRole, roleId?_undated, logUserRoleChange_undated, get?_userRoles_undated,
    Option.map_eq_none_iff]
  cases directory.roleId? role.value with
  | none => rfl
  | some roleId =>
    simp only
    split_ifs
    · rfl
    · cases directory.logUserRoleChange { draw.settings with currentUserId := some caller }
          draw.now .delete userId roleId with
      | none => rfl
      | some audit =>
        simp only [Except.map, Directory.undated, undated_deleteWhere]

theorem deleteUser_undated (userId : UserId) (draw : Draw) :
    deleteUser userId draw directory.undated =
      (deleteUser userId draw directory).map Directory.undated := by
  simp only [deleteUser, users_undated, logUserDisabled_undated]
  cases directory.users.table.get? userId with
  | none => rfl
  | some user =>
    simp only
    split_ifs
    · rfl
    · cases directory.logUserDisabled draw.settings draw.now userId user.disabled (some true) <;>
        rfl

theorem serve_undated (caller : UserId) (draw : Draw) (request : AdminRequest) :
    request.undated.serve caller draw directory.undated =
      (request.serve caller draw directory).map Directory.undated := by
  cases request with
  | assignRole userId request => exact assignRole_undated directory userId caller request draw
  | revokeRole userId role => exact revokeRole_undated directory userId caller role draw
  | deleteUser userId => exact deleteUser_undated directory userId draw

theorem register_undated (lib : Libraries) (user : BaseUser) (draw : Draw) :
    register lib user draw directory.undated =
      (register lib user draw directory).map fun done => (done.1.undated, done.2) := by
  simp only [register, users_undated]
  cases lib.hashpw user.password draw.salt with
  | none => rfl
  | some hashedPassword =>
    cases user.email with
    | none => rfl
    | some email =>
      simp only
      cases insertUser? directory.users draw.uniqueId
          ⟨user.username, email, user.fullname, some hashedPassword, some false⟩ with
      | none => rfl
      | some users =>
        simp only
        cases modelValidate lib (draw.uniqueId,
          ⟨user.username, email, user.fullname, some hashedPassword, some false⟩) <;> rfl

theorem turn_undated (lib : Libraries) (request : Request) (draw : Draw) :
    turn lib directory.undated request.undated draw =
      ((turn lib directory request draw).1.undated,
        (turn lib directory request draw).2.undated) := by
  cases request with
  | registering user =>
    rw [Request.undated, turn, turn, register_undated]
    cases register lib user draw directory <;> rfl
  | authenticating credential request =>
    have hsame : getCurrentActiveUser lib directory.undated credential =
        getCurrentActiveUser lib directory credential := by
      cases credential <;> rfl
    rw [Request.undated, turn, turn, hsame]
    cases getCurrentActiveUser lib directory credential <;> rfl
  | admitting caller request =>
    rw [Request.undated, turn, turn, userHasRole_undated]
    split_ifs <;> rfl
  | serving caller request =>
    rw [Request.undated, turn, turn, serve_undated]
    cases request.serve caller draw directory <;> rfl
  | replied | failed => rfl

end Undated

theorem step_undated (lib : Libraries) (pool : Pool Directory Request) (move : Move Command Draw) :
    (system lib).step (undatedPool pool) (undatedMove move) =
      undatedPool ((system lib).step pool move) := by
  cases move with
  | start command =>
    cases command <;> simp only [undatedPool, undatedMove, System.step, List.map_append] <;> rfl
  | turn position draw =>
    rw [undatedMove]
    cases hthread : pool.threads[position]? with
    | none =>
      have hnone : (undatedPool pool).threads[position]? = none := by
        rw [undatedPool, List.getElem?_map, hthread, Option.map_none]
      rw [System.step_turn_of_none hthread, System.step_turn_of_none hnone]
    | some thread =>
      have hundated : (undatedPool pool).threads[position]? = some thread.undated := by
        rw [undatedPool, List.getElem?_map, hthread, Option.map_some]
      have hturn : (system lib).turn (undatedPool pool).shared thread.undated draw =
          (((system lib).turn pool.shared thread draw).1.undated,
            ((system lib).turn pool.shared thread draw).2.undated) :=
        turn_undated pool.shared lib thread draw
      rw [System.step_turn hthread, System.step_turn hundated, hturn]
      simp only [undatedPool, List.map_set]

/-- A role holds from its assignment until it is taken back, whatever its dates are: of runs that
differ in dates alone, everything else is the same, replies and permissions included. -/
theorem dates_unread (lib : Libraries) {pool other : Pool Directory Request}
    (hpools : undatedPool pool = undatedPool other) {moves others : List (Move Command Draw)}
    (hmoves : moves.map undatedMove = others.map undatedMove) :
    undatedPool (moves.foldl (system lib).step pool) =
        undatedPool (others.foldl (system lib).step other) ∧
      ∀ userId role, (moves.foldl (system lib).step pool).shared.userHasRole userId role =
        (others.foldl (system lib).step other).shared.userHasRole userId role := by
  have hrun : ∀ (pool : Pool Directory Request) (moves : List (Move Command Draw)),
      undatedPool (moves.foldl (system lib).step pool) =
        (moves.map undatedMove).foldl (system lib).step (undatedPool pool) := by
    intro pool moves
    rw [List.foldl_map]
    exact (List.foldl_hom undatedPool (step_undated lib)).symm
  have hsame : undatedPool (moves.foldl (system lib).step pool) =
      undatedPool (others.foldl (system lib).step other) := by
    rw [hrun, hrun, hpools, hmoves]
  refine ⟨hsame, fun userId role => ?_⟩
  rw [← userHasRole_undated, ← userHasRole_undated (List.foldl _ other others).shared]
  exact congrArg (fun pool => pool.shared.userHasRole userId role) hsame

/-- A role that expired long ago is one that never expires. -/
theorem dates_unread_expired :
    let expired : AdminRequest := .assignRole "2" ⟨.admin, none, some 1, some 0⟩
    let lasting : AdminRequest := .assignRole "2" ⟨.admin, none, none, some 0⟩
    let turns : List (Move Command Draw) := [0, 0, 0].map fun position => .turn position sampleDraw
    let run (request : AdminRequest) := (Move.start (.admin (.token "ada") request) :: turns).foldl
      (system plainLibraries).step samplePool
    undatedPool (run expired) = undatedPool (run lasting) ∧ ∀ userId role,
      (run expired).shared.userHasRole userId role = (run lasting).shared.userHasRole userId role :=
  dates_unread plainLibraries rfl rfl

end AutoMana.Auth.Roles
