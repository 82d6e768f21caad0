import RouteGo.Lib.Table
import RouteGo.Utils.HttpResponse
import RouteGo.Utils.TokenKinds

/-!
# `UserService.login`

`userService.ts` over `user.repository.ts`; `bcrypt.compare` is a parameter. Without
the password of an account a caller gets one refusal, whether there is an account or
not, but for an account that is deactivated: that there is one is all that two stores
can be told apart by (`login_unmatched`).
-/

namespace RouteGo.Users

open Js Jwt

universe u

inductive Role where
  | admin
  | user
  deriving DecidableEq, Repr

def Role.text : Role → String
  | .admin => "admin"
  | .user => "user"

structure User where
  id : String
  name : String
  email : String
  password : String
  phone : Option String
  role : Role
  isActive : Bool
  deriving DecidableEq, Repr

/-- `Omit<User, 'password'>`. -/
structure UserWithoutPassword where
  id : String
  name : String
  email : String
  phone : Option String
  role : Role
  isActive : Bool
  deriving DecidableEq, Repr

def User.withoutPassword (u : User) : UserWithoutPassword :=
  ⟨u.id, u.name, u.email, u.phone, u.role, u.isActive⟩

instance : Keyed User String := ⟨User.id⟩

/-- The table with its `@unique` email. -/
structure UserStore where
  users : Table User
  emails : users.Distinct User.email

def findByEmail (store : UserStore) (email : String) : Option User :=
  store.users.rows.find? fun u => decide (u.email = email)

structure AuthResponse (τ : Type u) where
  tokens : TokenPair τ
  user : UserWithoutPassword

def invalidCredentials : HttpError := .app (.ConflictError "Invalid email or password")

def accountDeactivated : HttpError := .CustomError "User account is deactivated" 401

/-- The identity that goes into the tokens. -/
def User.payload (u : User) : Payload := { id := u.id, email := u.email, role := u.role.text }

/-- `comparePassword` takes the password and the hash. -/
def login {τ : Type u} (S : JWTService τ) (comparePassword : String → String → Bool)
    (store : UserStore) (now : Int) (email password : String) : Except HttpError (AuthResponse τ) :=
  match findByEmail store email with
  | none => .error invalidCredentials
  | some user =>
    if user.isActive = false then .error accountDeactivated
    else if comparePassword password user.password = false then .error invalidCredentials
    else
      match S.generateTokenPair now user.payload.claims with
      | .error e => .error (.app e)
      | .ok tokenPair => .ok ⟨tokenPair, user.withoutPassword⟩

/-! ## Refusals -/

/-- The password is not that of an account with the email. -/
def Unmatched (comparePassword : String → String → Bool) (store : UserStore)
    (email password : String) : Prop :=
  ∀ u ∈ store.users.rows, u.email = email → comparePassword password u.password = false

instance (comparePassword : String → String → Bool) (store : UserStore) (email password : String) :
    Decidable (Unmatched comparePassword store email password) :=
  inferInstanceAs (Decidable (∀ u ∈ store.users.rows, _))

/-- There is an account with the email, and it is deactivated. -/
def Deactivated (store : UserStore) (email : String) : Prop :=
  ∃ u ∈ store.users.rows, u.email = email ∧ u.isActive = false

instance (store : UserStore) (email : String) : Decidable (Deactivated store email) :=
  inferInstanceAs (Decidable (∃ u ∈ store.users.rows, _))

/-- What a caller without the password is told. -/
def refusal (store : UserStore) (email : String) : HttpError :=
  if Deactivated store email then accountDeactivated else invalidCredentials

section
variable {τ : Type u} {S : JWTService τ} {comparePassword : String → String → Bool}
  {store store' : UserStore} {now now' : Int} {email password : String} {user : User}

theorem findByEmail_eq_some : findByEmail store email = some user ↔
    user ∈ store.users.rows ∧ user.email = email := by
  constructor
  · intro h
    exact ⟨List.mem_of_find?_eq_some h, by simpa using List.find?_some h⟩
  · rintro ⟨hu, rfl⟩
    cases hf : findByEmail store user.email with
    | none => simpa using List.find?_eq_none.mp hf user hu
    | some user' =>
      have he : user'.email = user.email := by simpa using List.find?_some hf
      rw [store.emails.eq (List.mem_of_find?_eq_some hf) hu he]

theorem findByEmail_eq_none : findByEmail store email = none ↔
    ∀ u ∈ store.users.rows, u.email ≠ email := by
  simp [findByEmail]

theorem deactivated_of_find (h : findByEmail store email = some user) :
    Deactivated store email ↔ user.isActive = false := by
  obtain ⟨hu, he⟩ := findByEmail_eq_some.mp h
  constructor
  · rintro ⟨u, hm, hue, hf⟩
    obtain rfl := store.emails.eq hm hu (hue.trans he.symm)
    exact hf
  · intro hf
    exact ⟨user, hu, he, hf⟩

theorem login_of_unmatched (h : Unmatched comparePassword store email password) :
    login S comparePassword store now email password = .error (refusal store email) := by
  unfold login refusal
  cases hf : findByEmail store email with
  | none =>
    have hn : ¬ Deactivated store email := by
      rintro ⟨u, hu, he, -⟩
      exact findByEmail_eq_none.mp hf u hu he
    rw [if_neg hn]
  | some user =>
    obtain ⟨hu, he⟩ := findByEmail_eq_some.mp hf
    simp only [deactivated_of_find hf, h user hu he, if_true]
    split <;> rfl

theorem refusal_eq_iff : refusal store email = refusal store' email ↔
    (Deactivated store email ↔ Deactivated store' email) := by
  have hne : accountDeactivated ≠ invalidCredentials := by decide
  unfold refusal
  by_cases hd : Deactivated store email <;> by_cases hd' : Deactivated store' email <;>
    simp [hd, hd', hne, hne.symm]

/-- **Without the password** a caller is refused, and two stores are refused alike,
whatever accounts are in them, unless in one of the two the account is deactivated. -/
theorem login_unmatched (h : Unmatched comparePassword store email password)
    (h' : Unmatched comparePassword store' email password) :
    login S comparePassword store now email password = .error (refusal store email) ∧
      (login S comparePassword store now email password =
        login S comparePassword store' now' email password ↔
          (Deactivated store email ↔ Deactivated store' email)) := by
  refine ⟨login_of_unmatched h, ?_⟩
  rw [login_of_unmatched h, login_of_unmatched h', ← refusal_eq_iff]
  constructor
  · intro heq
    exact Except.error.inj heq
  · intro heq
    rw [heq]

end

/-- A store with one account. -/
def UserStore.single (u : User) : UserStore where
  users := ⟨[u], List.nodup_singleton _⟩
  emails := List.nodup_singleton _

def carol : User := ⟨"u1", "Carol", "carol@example.com", "hash of secret", none, .user, true⟩

/-- Compares with the text that is hashed. -/
def hashOf (password hash : String) : Bool := decide (hash = "hash of " ++ password)

def userTokens : JWTService (Claims × String) := ⟨inClear, ⟨"s", "r", "15m", "7d"⟩⟩

/-- The fields of an account do not matter. -/
theorem login_unmatched_fields :
    login userTokens hashOf (.single carol) 0 "carol@example.com" "guess" =
      login userTokens hashOf (.single { carol with role := .admin })
        0 "carol@example.com" "guess" :=
  (login_unmatched (by decide) (by decide)).2.mpr (by decide)

/-- **A deactivated account shows**, whatever the password. -/
theorem exists_login_apart : ¬ ∀ (store store' : UserStore) (email password : String),
    Unmatched hashOf store email password → Unmatched hashOf store' email password →
      login userTokens hashOf store 0 email password =
        login userTokens hashOf store' 0 email password := by
  intro hall
  have heq := hall (.single carol) (.single { carol with isActive := false })
    "carol@example.com" "guess"
    (by decide) (by decide)
  have hactive : login userTokens hashOf (.single carol) 0 "carol@example.com" "guess" =
    .error invalidCredentials := rfl
  have hnot : login userTokens hashOf (.single { carol with isActive := false })
    0 "carol@example.com"
    "guess" = .error accountDeactivated := rfl
  rw [hactive, hnot] at heq
  exact absurd (Except.error.inj heq) (by decide)

end RouteGo.Users
