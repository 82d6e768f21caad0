import RouteGo.Lib.Atomic
import RouteGo.Users.UserService

/-!
# `UserService.register`

The body reaches Prisma as the client sent it: an `email` that is missing filters
nothing, an object is a filter of its own, and what is no text is refused only by
the insert. However registrations interleave they are as good as one after another
(`register_linearizable`), and the accounts are those of the calls that returned
(`accounts`). `bcrypt.hash` is a parameter; the salt is drawn for each call.
-/

namespace RouteGo.Users

open Js

/-- An `email` in a body: an object is a filter for Prisma, or refused by it. -/
inductive EmailField where
  | value (v : Value)
  | object (filter : Option (User → Bool))

/-- `where: { email }`; `none` is refused. -/
def EmailField.filter : EmailField → Option (User → Bool)
  | .value .undefined => some fun _ => true
  | .value (.string e) => some fun u => decide (u.email = e)
  | .object filter => filter
  | _ => none

structure RegisterDto where
  name : Value
  email : EmailField
  password : Value
  role : Value

/-- `role` of a row; the default is the database's. -/
def Role.ofValue : Value → Option Role
  | .undefined => some .user
  | .string "admin" => some .admin
  | .string "user" => some .user
  | _ => none

/-- The error of `bcrypt` for what is no text. -/
def bcryptError : Value → AppError
  | .undefined | .null => .Error "data and salt arguments required"
  | _ => .Error ("data must be a string or Buffer and salt must either be a salt string or a " ++
      "number of rounds")

def userExists : AppError := .ConflictError "User with this email already exists"

def UserStore.empty : UserStore := ⟨Table.empty, List.nodup_nil⟩

/-- `prisma.user.create`; `none` for an id that is not new. -/
def createUser (store : UserStore) (id name email password : String) (role : Role) :
    Option (Result (User × UserStore)) :=
  if hu : ∀ u ∈ store.users.rows, u.email ≠ email then
    let user : User := ⟨id, name, email, password, none, role, true⟩
    match h : store.users.insert user with
    | some users => some (.ok (user, ⟨users, store.emails.insert h hu⟩))
    | none => none
  else some (.error prismaError)

/-- What the database and `bcrypt` give to a call. -/
structure NewUser where
  id : String
  salt : String

/-- The hash comes first, then the checks of Prisma. The row is what the call stores;
it returns nothing. -/
def register (hashPassword : String → String → String) :
    CheckInsert UserStore RegisterDto RegisterDto NewUser User AppError where
  check := .ok
  taken store userData :=
    match userData.email.filter with
    | some filter => store.users.rows.any filter
    | none => true
  conflict userData := if userData.email.filter.isNone then prismaError else userExists
  insert store new userData :=
    match userData.password with
    | .string password =>
      match userData.name, userData.email, Role.ofValue userData.role with
      | .string name, .value (.string email), some role =>
        createUser store new.id name email (hashPassword new.salt password) role
      | _, _, _ => some (.error prismaError)
    | v => some (.error (bcryptError v))
  fault := prismaError

abbrev RegisterCall := CheckInsert.Call RegisterDto RegisterDto User AppError

/-! ## What is stored -/

/-- The account of the request. -/
structure AccountOf (hashPassword : String → String → String) (dto : RegisterDto) (user : User) :
    Prop where
  name : dto.name = .string user.name
  email : dto.email = .value (.string user.email)
  role : Role.ofValue dto.role = some user.role
  password : ∃ password salt, dto.password = .string password ∧
    user.password = hashPassword salt password
  active : user.isActive = true
  phone : user.phone = none

section
variable {hashPassword : String → String → String} {store store' : UserStore} {dto : RegisterDto}
  {new : NewUser} {user : User}

theorem createUser_ok {id name email password : String} {role : Role}
    (h : createUser store id name email password role = some (.ok (user, store'))) :
    user = ⟨id, name, email, password, none, role, true⟩ ∧
      (∀ u ∈ store.users.rows, u.email ≠ email) ∧ store'.users.rows =
        store.users.rows ++ [user] := by
  unfold createUser at h
  split at h
  · next hu =>
    simp only at h
    split at h
    · next users hi =>
      cases h
      exact ⟨rfl, hu, Table.rows_of_insert hi⟩
    · cases h
  · cases h

theorem insert_ok (h : (register hashPassword).insert store new dto = some (.ok (user, store'))) :
    AccountOf hashPassword dto user ∧ (∀ u ∈ store.users.rows, u.email ≠ user.email) ∧
      store'.users.rows = store.users.rows ++ [user] := by
  obtain ⟨name, email, password, role⟩ := dto
  simp only [register] at h
  split at h
  · next p =>
    split at h
    · next n e r hr =>
      obtain ⟨rfl, hfree, hrows⟩ := createUser_ok h
      exact ⟨⟨rfl, rfl, hr, ⟨_, _, rfl, rfl⟩, rfl, rfl⟩, hfree, hrows⟩
    · cases h
  · cases h

theorem id_of_insert
    (h : (register hashPassword).insert store new dto = some (.ok (user, store'))) :
    user.id = new.id := by
  simp only [register] at h
  split at h
  · split at h
    · obtain ⟨rfl, -, -⟩ := createUser_ok h
      rfl
    · cases h
  · cases h

/-- The unique index backs the look-up. -/
theorem register_backed (hashPassword : String → String → String) :
    (register hashPassword).Backed := by
  intro store new dto user store' h
  obtain ⟨hacc, hfree, -⟩ := insert_ok h
  simp only [register, hacc.email, EmailField.filter, List.any_eq_false, decide_eq_true_eq]
  exact hfree

/-- **Registrations are atomic.** However they interleave, those that were answered
can be run one after another with the same results and the same accounts. -/
theorem register_linearizable {init : UserStore → Prop} {p₀ p p' : Pool UserStore RegisterCall}
    (hi : init p₀.shared ∧ ∀ c ∈ p₀.procs, c.pc = .start)
    (h : ((register hashPassword).calls init).Run LTS.always p₀ p)
    (h' : ((register hashPassword).calls init).Run LTS.always p p') :
    ∃ ws more, (register hashPassword).Serial p₀.shared p ws ∧
      (register hashPassword).Serial p₀.shared p' (ws ++ more) :=
  CheckInsert.serial_of_run (register_backed hashPassword) hi h h'

/-- What a call that has returned has stored. -/
structure AccountStored (hashPassword : String → String → String) (store : UserStore)
    (dto : RegisterDto) (user : User) : Prop where
  mem : user ∈ store.users.rows
  account : AccountOf hashPassword dto user

theorem stored_of_returned {init : UserStore → Prop} {p : Pool UserStore RegisterCall} {i : Nat}
    (h : ((register hashPassword).calls init).Reachable p)
    (hc : p.procs[i]? = some ⟨dto, .done (.ok user)⟩) :
    AccountStored hashPassword p.shared dto user := by
  refine CheckInsert.returned (R := AccountStored hashPassword) (fun s q d new a s' hq hi => ?_)
    (fun s q a d new a' s' hs hi => ?_) h hc
  · obtain rfl := Except.ok.inj hq
    obtain ⟨hacc, -, hrows⟩ := insert_ok hi
    exact ⟨by rw [hrows]; exact List.mem_append_right _ (List.mem_singleton_self a), hacc⟩
  · obtain ⟨-, -, hrows⟩ := insert_ok hi
    exact ⟨by rw [hrows]; exact List.mem_append_left _ hs.mem, hs.account⟩

/-- Every account was stored by a call that has returned. -/
theorem exists_call_of_user {p : Pool UserStore RegisterCall}
    (h : ((register hashPassword).calls fun store => store = UserStore.empty).Reachable p)
    (hu : user ∈ p.shared.users.rows) : ∃ (i : Nat) (dto : RegisterDto),
      p.procs[i]? = some ⟨dto, .done (.ok user)⟩ ∧ AccountOf hashPassword dto user := by
  obtain ⟨a, ⟨i, dto, hi⟩, rfl⟩ := CheckInsert.origin
    (fun (store : UserStore) u => u ∈ store.users.rows) (fun (a : User) u => a = u)
    (fun store hs u hm => by subst hs; exact List.not_mem_nil hm)
    (fun s d new a s' hins u hm => by
      obtain ⟨-, -, hrows⟩ := insert_ok hins
      rw [hrows, List.mem_append, List.mem_singleton] at hm
      exact hm.imp_right Eq.symm) h user hu
  exact ⟨i, dto, hi, (stored_of_returned h hi).account⟩

/-- **Accounts.** A row is in the table exactly when a call has returned after storing
it; it is the account the call asked for, under an email of its own. -/
theorem accounts {p : Pool UserStore RegisterCall}
    (h : ((register hashPassword).calls fun store => store = UserStore.empty).Reachable p) :
    (∀ u, u ∈ p.shared.users.rows ↔
      ∃ (i : Nat) (dto : RegisterDto), p.procs[i]? = some ⟨dto, .done (.ok u)⟩ ∧
        AccountOf hashPassword dto u) ∧
      ∀ u ∈ p.shared.users.rows, ∀ v ∈ p.shared.users.rows, u.email = v.email → u = v :=
  ⟨fun _ => ⟨exists_call_of_user h, fun ⟨_, _, hi, _⟩ => (stored_of_returned h hi).mem⟩,
    fun _ hu _ hv => p.shared.emails.eq hu hv⟩

end

/-! ## Two registrations of one email -/

def dora : RegisterDto :=
  ⟨.string "Dora", .value (.string "dora@example.com"), .string "secret", .undefined⟩

/-- One more with no email at all. -/
def twoDoras : Pool UserStore RegisterCall where
  shared := UserStore.empty
  procs := [⟨dora, .start⟩, ⟨{ dora with role := .string "admin" }, .start⟩,
    ⟨{ dora with email := .value .undefined }, .start⟩]

abbrev RegisterEvent := Pool.Event (CheckInsert.StepIn NewUser) Empty

/-- A hash that shows its salt and its password. -/
def salted (salt password : String) : String := salt ++ "$" ++ password

def twoDorasAfter (es : List RegisterEvent) : Pool UserStore RegisterCall :=
  (LTS.execAll (Pool.step (register salted).spec) twoDoras es).getD twoDoras

/-- Both look the email up before either stores it. -/
def emailRace : List RegisterEvent :=
  [.proc 0 ⟨⟨"", ""⟩, false⟩, .proc 1 ⟨⟨"", ""⟩, false⟩, .proc 1 ⟨⟨"u1", "x"⟩, false⟩,
    .proc 0 ⟨⟨"u2", "y"⟩, false⟩]

/-- Any account is in the way of one without an email. -/
def emailMissing : List RegisterEvent := [.proc 2 ⟨⟨"", ""⟩, false⟩]

theorem twoDoras_start : twoDoras.shared = UserStore.empty ∧
    ∀ c ∈ twoDoras.procs, c.pc = .start := by
  refine ⟨rfl, fun c hc => ?_⟩
  simp only [twoDoras, List.mem_cons, List.not_mem_nil, or_false] at hc
  rcases hc with rfl | rfl | rfl <;> rfl

theorem twoDoras_runs : ∃ ws more,
    (register salted).Serial UserStore.empty (twoDorasAfter emailRace) ws ∧
      (register salted).Serial UserStore.empty (twoDorasAfter (emailRace ++ emailMissing))
        (ws ++ more) := by
  have hp : LTS.execAll (Pool.step (register salted).spec) twoDoras emailRace =
    some (twoDorasAfter emailRace) := rfl
  have hp' : LTS.execAll (Pool.step (register salted).spec) (twoDorasAfter emailRace) emailMissing =
    some (twoDorasAfter (emailRace ++ emailMissing)) := rfl
  have hr : ((register salted).calls fun store => store = UserStore.empty).Run
    LTS.always twoDoras _ :=
    LTS.run_of_execAll (LTS.allOk_always _ _ _) hp
  exact register_linearizable twoDoras_start hr (LTS.run_of_execAll (LTS.allOk_always _ _ _) hp')

theorem twoDoras_account :
    (⟨"u1", "Dora", "dora@example.com", "x$secret", none, .admin, true⟩ : User) ∈
      (twoDorasAfter emailRace).shared.users.rows ∧
    ∃ (i : Nat) (dto : RegisterDto), (twoDorasAfter emailRace).procs[i]? = some ⟨dto,
      .done (.ok ⟨"u1", "Dora", "dora@example.com", "x$secret", none, .admin, true⟩)⟩ ∧
      AccountOf salted dto ⟨"u1", "Dora", "dora@example.com", "x$secret", none, .admin, true⟩ := by
  have hmem : (⟨"u1", "Dora", "dora@example.com", "x$secret", none, .admin, true⟩ : User) ∈
    (twoDorasAfter emailRace).shared.users.rows := by decide +kernel
  have hp : LTS.execAll (Pool.step (register salted).spec) twoDoras emailRace =
    some (twoDorasAfter emailRace) := rfl
  have h : ((register salted).calls fun store => store = UserStore.empty).Reachable
    (twoDorasAfter emailRace) := LTS.reachable_of_execAll emailRace twoDoras_start hp
  exact ⟨hmem, ((accounts h).1 _).mp hmem⟩

end RouteGo.Users
