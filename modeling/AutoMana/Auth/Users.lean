import AutoMana.Relational.Table

/-!
# Users and their passwords

A login name is a username, or else an email. Usernames and emails are unique each, but a
username may be the email of another user.
-/

namespace AutoMana.Auth

open Relational

/-- What is called of third-party libraries. -/
structure Libraries where
  /-- `bcrypt.checkpw` of a password and a hash; `none` when it raises. -/
  checkpw : String → String → Option Bool
  /-- `bcrypt.hashpw` of a password and a salt; `none` when it raises. -/
  hashpw : String → String → Option String
  /-- `EmailStr`: the normalized address; `none` when it is not one. -/
  validateEmail : String → Option String
  /-- The hex digest of `hashlib.sha256`. -/
  sha256 : String → String

/-- A row of `users`. -/
structure User where
  username : String
  email : String
  fullname : Option String
  hashedPassword : Option String
  disabled : Option Bool

/-- `users`, with its unique constraints. -/
structure Users where
  table : Table String User
  nodup_usernames : (table.rows.map (·.2.username)).Nodup
  nodup_emails : (table.rows.map (·.2.email)).Nodup

structure UserInDB where
  uniqueId : String
  username : String
  email : String
  fullname : Option String
  hashedPassword : String
  disabled : Option Bool
  deriving DecidableEq

inductive AuthError where
  /-- `AttributeError`: there is no hash to encode. -/
  | noHash
  /-- `ValueError` of the hash or the length of the password. -/
  | checkpw
  /-- `ValidationError` of `UserInDB`. -/
  | invalidUser
  deriving DecidableEq

/-! ## Queries -/

/-- `UserRepository.get` -/
def get (users : Table String User) (username : String) : Option (String × User) :=
  users.rows.find? (·.2.username = username)

/-- `UserRepository.get_by_email` -/
def getByEmail (users : Table String User) (email : String) : Option (String × User) :=
  users.rows.find? (·.2.email = email)

/-- `UserRepository.get_by_id` -/
def getById (users : Table String User) (userId : String) : Option User :=
  (users.get? userId).filter fun user => decide (user.disabled = some false)

/-! ## Authentication -/

section Authentication

variable (lib : Libraries)

def verifyPassword (plainPassword : String) : Option String → Except AuthError Bool
  | none => .error .noHash
  | some hashedPassword =>
    match lib.checkpw plainPassword hashedPassword with
    | none => .error .checkpw
    | some same => .ok same

/-- `UserInDB.model_validate` -/
def modelValidate (row : String × User) : Except AuthError UserInDB :=
  match lib.validateEmail row.2.email, row.2.hashedPassword with
  | some email, some hashedPassword =>
    if row.2.username.length ≤ 50 ∧ ∀ fullname, row.2.fullname = some fullname →
        fullname.length ≤ 50 then
      .ok ⟨row.1, row.2.username, email, row.2.fullname, hashedPassword, row.2.disabled⟩
    else .error .invalidUser
  | _, _ => .error .invalidUser

/-- `authenticate_user` from the user on that it has found. -/
def checkUser (password : String) (row : String × User) : Except AuthError (Option UserInDB) :=
  match verifyPassword lib password row.2.hashedPassword with
  | .error error => .error error
  | .ok false => .ok none
  | .ok true =>
    if row.2.disabled = some true then .ok none
    else (modelValidate lib row).map some

def authenticateUser (users : Users) (username password : String) :
    Except AuthError (Option UserInDB) :=
  match (get users.table username).or (getByEmail users.table username) with
  | none => .ok none
  | some row => checkUser lib password row

/-! ## What is claimed, and the condition -/

/-- The password is that of the user, who is not disabled. -/
def Passes (password : String) (user : User) : Prop :=
  verifyPassword lib password user.hashedPassword = .ok true ∧ user.disabled ≠ some true

/-- A user of the name, whose password it is and who is not disabled. -/
structure Entitled (users : Users) (name password userId : String) (user : User) : Prop where
  stored : users.table.get? userId = some user
  named : user.username = name ∨ user.email = name
  passes : Passes lib password user

/-- Someone who is entitled is returned when there is one, and nobody otherwise. -/
def LogsIn (users : Users) (name password : String) : Prop :=
  ((∃ userId user, Entitled lib users name password userId user) →
      ∃ found user, authenticateUser lib users name password = .ok (some found) ∧
        Entitled lib users name password found.uniqueId user) ∧
    ((¬ ∃ userId user, Entitled lib users name password userId user) →
      authenticateUser lib users name password = .ok none)

/-- The user who is found first does not make the check raise, is valid when she passes it, and
passes it when the user of the email does. -/
def FindsRight (users : Users) (name password : String) : Prop :=
  ∀ row, (get users.table name).or (getByEmail users.table name) = some row →
    (∀ error, verifyPassword lib password row.2.hashedPassword ≠ .error error) ∧
      (Passes lib password row.2 → ∃ user, modelValidate lib row = .ok user) ∧
      ∀ other, getByEmail users.table name = some other → Passes lib password other.2 →
        Passes lib password row.2

end Authentication

/-! ## Finding users -/

section Find

variable {users : Users} {name : String} {row : String × User}

theorem get_eq_some_iff :
    get users.table name = some row ↔ row ∈ users.table.rows ∧ row.2.username = name :=
  Table.find?_unique_iff users.nodup_usernames name row

theorem getByEmail_eq_some_iff :
    getByEmail users.table name = some row ↔ row ∈ users.table.rows ∧ row.2.email = name :=
  Table.find?_unique_iff users.nodup_emails name row

/-- The user who is found first has the name. -/
theorem of_found (hrow : (get users.table name).or (getByEmail users.table name) = some row) :
    users.table.get? row.1 = some row.2 ∧ (row.2.username = name ∨ row.2.email = name) := by
  rw [← Table.mem_rows_iff]
  rcases Option.or_eq_some_iff.mp hrow with hget | ⟨-, hemail⟩
  · exact (get_eq_some_iff.mp hget).imp_right .inl
  · exact (getByEmail_eq_some_iff.mp hemail).imp_right .inr

variable {lib : Libraries} {password userId : String} {user : User}

/-- Who is entitled is found by the username or by the email. -/
theorem Entitled.found (hentitled : Entitled lib users name password userId user) :
    get users.table name = some (userId, user) ∨
      getByEmail users.table name = some (userId, user) := by
  have hmem := (Table.mem_rows_iff _ _ _).mpr hentitled.stored
  rcases hentitled.named with husername | hemail
  · exact .inl (get_eq_some_iff.mpr ⟨hmem, husername⟩)
  · exact .inr (getByEmail_eq_some_iff.mpr ⟨hmem, hemail⟩)

theorem uniqueId_of_modelValidate {found : UserInDB} (hfound : modelValidate lib row = .ok found) :
    found.uniqueId = row.1 := by
  rw [modelValidate] at hfound
  split at hfound
  · split_ifs at hfound
    cases hfound
    rfl
  · cases hfound

end Find

/-! ## The check of a user -/

section Check

variable {lib : Libraries} {password : String} {row : String × User}

theorem checkUser_of_passes (hpasses : Passes lib password row.2) :
    checkUser lib password row = (modelValidate lib row).map some := by
  rw [checkUser, hpasses.1]
  exact if_neg hpasses.2

/-- Of a user who does not pass nobody is returned, or the check raises. -/
theorem checkUser_of_not_passes (hpasses : ¬ Passes lib password row.2) :
    checkUser lib password row =
      (verifyPassword lib password row.2.hashedPassword).map fun _ => none := by
  rw [checkUser]
  cases hverify : verifyPassword lib password row.2.hashedPassword with
  | error raised => rfl
  | ok same =>
    cases same with
    | false => rfl
    | true =>
      have hdisabled : row.2.disabled = some true := by
        by_contra henabled
        exact hpasses ⟨hverify, henabled⟩
      exact if_pos hdisabled

end Check

/-- The right password logs the right user in exactly when the user found first makes nothing
raise, and passes whenever the user of the email does. -/
theorem logsIn_iff (lib : Libraries) (users : Users) (name password : String) :
    LogsIn lib users name password ↔ FindsRight lib users name password := by
  cases hfound : (get users.table name).or (getByEmail users.table name) with
  | none =>
    have hnobody : ¬ ∃ userId user, Entitled lib users name password userId user := by
      rintro ⟨userId, user, hentitled⟩
      obtain ⟨hget, hemail⟩ := Option.or_eq_none_iff.mp hfound
      rcases hentitled.found with h | h
      · rw [hget] at h
        cases h
      · rw [hemail] at h
        cases h
    have hresult : authenticateUser lib users name password = .ok none := by
      rw [authenticateUser, hfound]
    refine iff_of_true ⟨fun h => absurd h hnobody, fun _ => hresult⟩ ?_
    intro row hrow
    rw [hfound] at hrow
    cases hrow
  | some row =>
    have hresult : authenticateUser lib users name password = checkUser lib password row := by
      rw [authenticateUser, hfound]
    obtain ⟨hstored, hnamed⟩ := of_found hfound
    simp only [LogsIn, FindsRight, hfound, hresult, Option.some.injEq, forall_eq']
    by_cases hpasses : Passes lib password row.2
    · have hentitled : Entitled lib users name password row.1 row.2 := ⟨hstored, hnamed, hpasses⟩
      have hchecks : ∀ error, verifyPassword lib password row.2.hashedPassword ≠ .error error := by
        rw [hpasses.1]
        exact fun _ h => by cases h
      rw [checkUser_of_passes hpasses]
      cases hvalid : modelValidate lib row with
      | error raised =>
        refine iff_of_false ?_ ?_
        · rintro ⟨hsome, -⟩
          obtain ⟨_, _, hreturned, -⟩ := hsome ⟨_, _, hentitled⟩
          cases hreturned
        · rintro ⟨-, hvalidates, -⟩
          obtain ⟨_, hreturned⟩ := hvalidates hpasses
          cases hreturned
      | ok found =>
        refine iff_of_true ⟨fun _ => ⟨found, row.2, rfl, ?_⟩, fun hnone => ?_⟩
          ⟨hchecks, fun _ => ⟨found, rfl⟩, fun _ _ _ => hpasses⟩
        · rw [uniqueId_of_modelValidate hvalid]
          exact hentitled
        · exact absurd ⟨_, _, hentitled⟩ hnone
    · rw [checkUser_of_not_passes hpasses]
      constructor
      · rintro ⟨hsome, hnone⟩
        have hnobody : ¬ ∃ userId user, Entitled lib users name password userId user := by
          intro hexists
          obtain ⟨found, _, hreturned, -⟩ := hsome hexists
          cases hverify : verifyPassword lib password row.2.hashedPassword <;>
            simp [hverify, Except.map] at hreturned
        have hreturned := hnone hnobody
        refine ⟨fun error herror => ?_, fun h => absurd h hpasses, ?_⟩
        · rw [herror] at hreturned
          cases hreturned
        · intro other hother hotherPasses
          obtain ⟨hmem, hemail⟩ := getByEmail_eq_some_iff.mp hother
          exact absurd ⟨other.1, other.2, (Table.mem_rows_iff _ _ _).mp hmem, .inr hemail,
            hotherPasses⟩ hnobody
      · rintro ⟨hchecks, -, hemail⟩
        have hnobody : ¬ ∃ userId user, Entitled lib users name password userId user := by
          rintro ⟨userId, user, hentitled⟩
          rcases hentitled.found with hget | hgetByEmail
          · rw [hget, Option.some_or, Option.some.injEq] at hfound
            subst hfound
            exact hpasses hentitled.passes
          · exact hpasses (hemail _ hgetByEmail hentitled.passes)
        refine ⟨fun h => absurd h hnobody, fun _ => ?_⟩
        cases hverify : verifyPassword lib password row.2.hashedPassword with
        | error error => exact absurd hverify (hchecks error)
        | ok same => rfl

/-! ## A username that is the email of another user -/

/-- Libraries with which a password is its own hash. -/
def plainLibraries : Libraries :=
  ⟨fun password hashed => some (password == hashed), fun password _ => some password, some, id⟩

def ada : User := ⟨"ada", "ada@example.org", none, some "lovelace", some false⟩

def mallory : User := ⟨"ada@example.org", "mallory@example.org", none, some "secret", some false⟩

def adaAndMallory : Users := ⟨⟨[("1", ada), ("2", mallory)], by decide⟩, by decide, by decide⟩

/-- The user of the email is not logged in with the right password. -/
theorem username_hides_email :
    ¬ LogsIn plainLibraries adaAndMallory "ada@example.org" "lovelace" := by
  intro hlogs
  have hentitled : Entitled plainLibraries adaAndMallory "ada@example.org" "lovelace" "1" ada :=
    ⟨rfl, .inr rfl, rfl, by decide⟩
  obtain ⟨_, _, hreturned, -⟩ := hlogs.1 ⟨_, _, hentitled⟩
  have hnobody : authenticateUser plainLibraries adaAndMallory "ada@example.org" "lovelace" =
      .ok none := rfl
  rw [hnobody] at hreturned
  cases hreturned

end AutoMana.Auth
