import RouteGo.Gateway.Middleware
import RouteGo.Routes.Stops
import RouteGo.Users.Register

/-!
# From a registration to the gateway

`login` for any JSON body, `getCurrentUser`, and the access token at the gateway. A
token is given for an active account and its password alone, whatever the body holds
(`loginRequest_sound`). An account that was registered logs in with its password ever
after, and its token passes the gateway as its own until it expires, at the second
that the answer named (`session_of_registered`).
-/

namespace RouteGo.Users

open Js Jwt
open Gateway.Middleware (Outcome authMiddleware Bears)

universe u

/-- `findFirst`: a row that the filter accepts, where there is one. -/
structure Finder where
  pick : UserStore → (User → Bool) → Option User
  mem : ∀ store filter user, pick store filter = some user →
    user ∈ store.users.rows ∧ filter user = true
  none : ∀ store filter, pick store filter = .none → ∀ u ∈ store.users.rows, filter u = false

/-- The error of `bcrypt.compare` for what is no text. -/
def compareError : Value → AppError
  | .undefined | .null => .Error "data and hash arguments required"
  | _ => .Error "data and hash must be strings"

section
variable {τ : Type u}

/-- `login` with the fields of a body as they come. -/
def loginRequest (S : JWTService τ) (comparePassword : String → String → Bool) (F : Finder)
    (store : UserStore) (now : Int) (email : EmailField) (password : Value) :
    Except HttpError (AuthResponse τ) :=
  match email.filter with
  | none => .error (.app prismaError)
  | some filter =>
    match F.pick store filter with
    | none => .error invalidCredentials
    | some user =>
      if user.isActive = false then .error accountDeactivated
      else
        match password with
        | .string password =>
          if comparePassword password user.password = false then .error invalidCredentials
          else
            match S.generateTokenPair now user.payload.claims with
            | .error e => .error (.app e)
            | .ok tokenPair => .ok ⟨tokenPair, user.withoutPassword⟩
        | v => .error (.app (compareError v))

/-- `findById` on the `uuid` column. -/
def findUserById (store : UserStore) : Value → Result (Option User)
  | .string id =>
    match Uuid.read id with
    | some v => .ok (store.users.find (Uuid.text v))
    | none => .error prismaError
  | _ => .error prismaError

/-- Whatever is thrown, the answer is `null`. -/
def getCurrentUser (S : JWTService τ) (store : UserStore) (accessToken : τ) (now : Int) :
    Option UserWithoutPassword :=
  match S.verifyAccessToken accessToken now with
  | .error _ => none
  | .ok payload =>
    match findUserById store payload.id with
    | .error _ => none
    | .ok user => user.map User.withoutPassword

variable {S : JWTService τ} {comparePassword : String → String → Bool} {F : Finder}
  {store : UserStore} {now t : Int} {email : EmailField} {password : Value} {r : AuthResponse τ}

theorem pick_of_mem {user : User} (F : Finder) (hu : user ∈ store.users.rows) :
    F.pick store (fun u => decide (u.email = user.email)) = some user := by
  cases hf : F.pick store fun u => decide (u.email = user.email) with
  | none => simpa using F.none store _ hf user hu
  | some u =>
    obtain ⟨hm, he⟩ := F.mem store _ u hf
    rw [store.emails.eq hm hu (of_decide_eq_true he)]

/-- An active account with its password. -/
theorem loginRequest_of_mem {user : User} {p : String} (S : JWTService τ) (F : Finder) (now : Int)
    (hu : user ∈ store.users.rows) (hactive : user.isActive = true)
    (hmatch : comparePassword p user.password = true) :
    loginRequest S comparePassword F store now (.value (.string user.email)) (.string p) =
      match S.generateTokenPair now user.payload.claims with
      | .error e => .error (.app e)
      | .ok tokenPair => .ok ⟨tokenPair, user.withoutPassword⟩ := by
  simp only [loginRequest, EmailField.filter, pick_of_mem F hu, hactive, hmatch, Bool.true_eq_false,
    if_false]

/-- For texts it is `login`. -/
theorem loginRequest_string (F : Finder) (email password : String) :
    loginRequest S comparePassword F store now (.value (.string email)) (.string password) =
      login S comparePassword store now email password := by
  unfold login
  cases hf : findByEmail store email with
  | none =>
    have hp : F.pick store (fun u => decide (u.email = email)) = none := by
      cases hp : F.pick store fun u => decide (u.email = email) with
      | none => rfl
      | some u =>
        obtain ⟨hm, he⟩ := F.mem store _ u hp
        exact absurd (of_decide_eq_true he) (findByEmail_eq_none.mp hf u hm)
    simp only [loginRequest, EmailField.filter, hp]
  | some user =>
    obtain ⟨hm, rfl⟩ := findByEmail_eq_some.mp hf
    cases hp : S.generateTokenPair now user.payload.claims <;>
      simp only [loginRequest, EmailField.filter, pick_of_mem F hm, hp]

/-! ## What a log-in takes -/

theorem generateTokenPair_ok {claims : Claims} {pair : TokenPair τ}
    (h : S.generateTokenPair t claims = .ok pair) :
    S.generateAccessToken t claims = .ok pair.accessToken ∧
      S.generateRefreshToken t claims = .ok pair.refreshToken ∧
      pair.accessTokenExpiresIn = getExpirationTime S.config.accessExpiresIn ∧
      pair.refreshTokenExpiresIn = getExpirationTime S.config.refreshExpiresIn := by
  unfold JWTService.generateTokenPair at h
  split at h
  · cases h
  · next ha =>
    split at h
    · cases h
    · next hr => cases h; exact ⟨ha, hr, rfl, rfl⟩

/-- The tokens are those of the account: each is accepted as its own kind until the
second the answer names, and never as the other. -/
structure TokensOf (S : JWTService τ) (user : User) (pair : TokenPair τ) (t : Int) : Prop where
  access : JWTService.Separate user.payload pair.accessToken (t / 1000 + pair.accessTokenExpiresIn)
    S.verifyAccessToken S.verifyRefreshToken
  refresh :
    JWTService.Separate user.payload pair.refreshToken (t / 1000 + pair.refreshTokenExpiresIn)
    S.verifyRefreshToken S.verifyAccessToken

theorem tokensOf_pair {user : User} {pair : TokenPair τ} (hS : S.jwt.Lawful)
    (h : S.generateTokenPair t user.payload.claims = .ok pair) : TokensOf S user pair t := by
  obtain ⟨ha, hr, hat, hrt⟩ := generateTokenPair_ok h
  constructor
  · rw [hat]
    exact JWTService.separate_of_carries (JWTService.carries_of_access hS ha) (by decide)
  · rw [hrt]
    exact JWTService.separate_of_carries (JWTService.carries_of_refresh hS hr) (by decide)

/-- A log-in that succeeds is that of `user`, with its password. -/
structure LogsIn (S : JWTService τ) (comparePassword : String → String → Bool) (user : User)
    (email : EmailField) (password : Value) (t : Int) (r : AuthResponse τ) : Prop where
  email : ∃ filter, email.filter = some filter ∧ filter user = true
  active : user.isActive = true
  password : ∃ p, password = .string p ∧ comparePassword p user.password = true
  tokens : S.generateTokenPair t user.payload.claims = .ok r.tokens
  answer : r.user = user.withoutPassword

theorem loginRequest_ok (h : loginRequest S comparePassword F store t email password = .ok r) :
    ∃ user ∈ store.users.rows, LogsIn S comparePassword user email password t r := by
  unfold loginRequest at h
  split at h
  · cases h
  · next filter hf =>
    split at h
    · cases h
    · next user hp =>
      obtain ⟨hm, hmatch⟩ := F.mem store filter user hp
      split at h
      · cases h
      · next hactive =>
        split at h
        · next p =>
          split at h
          · cases h
          · next hcompare =>
            split at h
            · cases h
            · next pair hpair =>
              cases h
              exact ⟨user, hm, ⟨filter, hf, hmatch⟩, (Bool.not_eq_false _).mp hactive,
                ⟨p, rfl, (Bool.not_eq_false _).mp hcompare⟩, hpair, rfl⟩
        · cases h

/-- **No token without the password.** Whatever the body holds, be its email missing
or a filter, a log-in that succeeds is that of an active account that the email
matches, and the password is the account's; the answer and the tokens are its own. -/
theorem loginRequest_sound (hS : S.jwt.Lawful)
    (h : loginRequest S comparePassword F store t email password = .ok r) :
    ∃ user ∈ store.users.rows, (∃ filter, email.filter = some filter ∧ filter user = true) ∧
      user.isActive = true ∧ (∃ p, password = .string p ∧ comparePassword p user.password = true) ∧
      r.user = user.withoutPassword ∧ TokensOf S user r.tokens t := by
  obtain ⟨user, hm, hl⟩ := loginRequest_ok h
  exact ⟨user, hm, hl.email, hl.active, hl.password, hl.answer, tokensOf_pair hS hl.tokens⟩

end

/-! ## At the gateway -/

/-- The gateway verifies as the user service does. -/
structure SameAccess {τ : Type u} (S G : JWTService τ) : Prop where
  jwt : G.jwt = S.jwt
  accessSecret : G.config.accessSecret = S.config.accessSecret

theorem SameAccess.verifyAccessToken {τ : Type u} {S G : JWTService τ}
    (h : SameAccess S G) (token : τ)
    (now : Int) : G.verifyAccessToken token now = S.verifyAccessToken token now := by
  unfold JWTService.verifyAccessToken JWTService.verifyAs
  rw [h.jwt, h.accessSecret]

def bearer (token : String) : Option String := some ("Bearer " ++ token)

/-- The header bears its token. -/
theorem bears_bearer {token : String} (h : ' ' ∉ token.toList) : Bears (bearer token) token := by
  have hlist : ("Bearer " ++ token).toList = "Bearer".toList ++ ' ' :: token.toList := by
    rw [String.toList_append]
    rfl
  have hword : ' ' ∉ "Bearer".toList := by decide
  refine ⟨_, rfl, ?_, ?_⟩
  · rw [Gateway.Middleware.startsWithBearer, List.isPrefixOf_iff_prefix, String.toList_append]
    exact List.prefix_append _ _
  · rw [Gateway.Middleware.splitSpaces, hlist, List.splitOn_append_cons_self_of_not_mem hword,
      List.splitOn_eq_singleton h]
    simp

/-- A token is accepted by the gateway exactly as it is by the service. -/
structure SessionOf (S G : JWTService String) (store : UserStore) (user : User)
    (pair : TokenPair String) (t : Int) : Prop where
  accepted : ∀ now : Int, now / 1000 < t / 1000 + pair.accessTokenExpiresIn →
    authMiddleware G now (bearer pair.accessToken) =
        .next (.string user.id) (.string user.email) (.string user.role.text) ∧
      getCurrentUser S store pair.accessToken now = some user.withoutPassword
  expired : ∀ now : Int, t / 1000 + pair.accessTokenExpiresIn ≤ now / 1000 →
    ¬ (authMiddleware G now (bearer pair.accessToken)).IsNext ∧
      getCurrentUser S store pair.accessToken now = none
  refresh : ∀ now : Int, ¬ (authMiddleware G now (bearer pair.refreshToken)).IsNext ∧
    getCurrentUser S store pair.refreshToken now = none

section
variable {S G : JWTService String} {store : UserStore} {now t : Int} {user : User} {token : String}

theorem authMiddleware_of_ok {payload : Claims} (hb : Bears (bearer token) token)
    (hv : G.verifyAccessToken token now = .ok payload) (hid : payload.id.truthy = true) :
    authMiddleware G now (bearer token) = .next payload.id payload.email payload.role := by
  unfold authMiddleware
  rw [Gateway.Middleware.authorize_ok.mpr ⟨token, hb, hv, hid⟩]

theorem not_isNext_of_error {e : AppError} (hb : Bears (bearer token) token)
    (hv : G.verifyAccessToken token now = .error e) :
    ¬ (authMiddleware G now (bearer token)).IsNext := by
  intro hn
  exact (Gateway.Middleware.isNext_iff.mp hn).not_tokenRefused ⟨token, e, hb, hv⟩

theorem getCurrentUser_of_error {e : AppError} (hv : S.verifyAccessToken token now = .error e) :
    getCurrentUser S store token now = none := by
  simp only [getCurrentUser, hv]

theorem getCurrentUser_of_ok {payload : Claims} (hv : S.verifyAccessToken token now = .ok payload)
    (hid : payload.id = .string user.id) (huuid : Uuid.Canonical user.id)
    (hu : user ∈ store.users.rows) :
    getCurrentUser S store token now = some user.withoutPassword := by
  obtain ⟨v, hread, htext⟩ := huuid
  have hfind : store.users.find (Uuid.text v) = some user := Table.find_eq_some.mpr ⟨hu, htext.symm⟩
  simp only [getCurrentUser, hv, hid, findUserById, hread, hfind, Option.map_some]

/-- What the tokens of an account are good for. -/
theorem sessionOf_pair {pair : TokenPair String} (hS : S.jwt.Lawful)
    (hsigned : ∀ claims secret expiresIn now token,
      S.jwt.sign claims secret expiresIn now = .ok token → ' ' ∉ token.toList)
    (hG : SameAccess S G) (huuid : Uuid.Canonical user.id) (hu : user ∈ store.users.rows)
    (h : S.generateTokenPair t user.payload.claims = .ok pair) :
    SessionOf S G store user pair t := by
  obtain ⟨ha, hr, hat, -⟩ := generateTokenPair_ok h
  have htokens := tokensOf_pair hS h
  have hba : Bears (bearer pair.accessToken) pair.accessToken := bears_bearer (hsigned _ _ _ _ _ ha)
  have hbr : Bears (bearer pair.refreshToken) pair.refreshToken :=
    bears_bearer (hsigned _ _ _ _ _ hr)
  have hne : user.id ≠ "" := by
    obtain ⟨v, hread, -⟩ := huuid
    exact (noSpace_of_read hread).1
  constructor
  · intro now hnow
    obtain ⟨c, hc, hid, hemail, hrole⟩ := htokens.access.accepted now hnow
    have htruthy : c.id.truthy = true := by
      rw [hid]
      exact decide_eq_true hne
    refine ⟨?_, getCurrentUser_of_ok hc hid huuid hu⟩
    rw [authMiddleware_of_ok hba ((hG.verifyAccessToken _ _).trans hc) htruthy, hid, hemail, hrole]
    rfl
  · intro now hnow
    have hcarries := JWTService.carries_of_access hS ha
    rw [hat] at hnow
    have hv : S.verifyAccessToken pair.accessToken now = .error JWTService.accessExpired := by
      unfold JWTService.verifyAccessToken JWTService.verifyAs
      rw [hcarries.expired now hnow]
    exact ⟨not_isNext_of_error hba ((hG.verifyAccessToken _ _).trans hv),
      getCurrentUser_of_error hv⟩
  · intro now
    obtain ⟨e, he⟩ := htokens.refresh.rejected now
    exact ⟨not_isNext_of_error hbr ((hG.verifyAccessToken _ _).trans he),
      getCurrentUser_of_error he⟩

end

section
variable {hashPassword : String → String → String} {comparePassword : String → String → Bool}
  {S G : JWTService String} {F : Finder} {p p' p'' : Pool UserStore RegisterCall} {i : Nat}
  {dto : RegisterDto} {user : User} {t : Int}

/-- The account is there at any later time. -/
theorem stored_of_run {init : UserStore → Prop}
    (h : ((register hashPassword).calls init).Reachable p)
    (hc : p.procs[i]? = some ⟨dto, .done (.ok user)⟩)
    (hr : ((register hashPassword).calls init).Run LTS.always p p') :
    AccountStored hashPassword p'.shared dto user :=
  stored_of_returned (h.run hr) (CheckInsert.done_run hr hc)

/-- **A registration is good for a session.** Whatever is registered in between, the
email and the password of a registration that has returned log its account in, if the
library signs at all; the access token then passes the gateway under the id, the email
and the role of the account until the second that the answer named and no longer, the
refresh token never, and `getCurrentUser` knows the account by it for as long. -/
theorem session_of_registered {init : UserStore → Prop}
    (h : ((register hashPassword).calls init).Reachable p)
    (hc : p.procs[i]? = some ⟨dto, .done (.ok user)⟩)
    (hlogin : ((register hashPassword).calls init).Run LTS.always p p')
    (huse : ((register hashPassword).calls init).Run LTS.always p' p'')
    (hcompare : ∀ salt password, comparePassword password (hashPassword salt password) = true)
    (hS : S.jwt.Lawful)
    (hsigned : ∀ claims secret expiresIn now token,
      S.jwt.sign claims secret expiresIn now = .ok token → ' ' ∉ token.toList)
    (hG : SameAccess S G) (huuid : Uuid.Canonical user.id) :
    (∃ e, S.generateTokenPair t user.payload.claims = .error e ∧
      loginRequest S comparePassword F p'.shared t dto.email dto.password = .error (.app e)) ∨
    ∃ pair, S.generateTokenPair t user.payload.claims = .ok pair ∧
      loginRequest S comparePassword F p'.shared t dto.email dto.password =
        .ok ⟨pair, user.withoutPassword⟩ ∧
      SessionOf S G p''.shared user pair t := by
  have hst := stored_of_run h hc hlogin
  have hlater := stored_of_run h hc (hlogin.trans huse)
  obtain ⟨password, salt, hpw, hhash⟩ := hst.account.password
  have hmatch : comparePassword password user.password = true := by
    rw [hhash]
    exact hcompare salt password
  have hfind := loginRequest_of_mem S F t hst.mem hst.account.active hmatch
  rw [hst.account.email, hpw]
  cases hpair : S.generateTokenPair t user.payload.claims with
  | error e =>
    rw [hpair] at hfind
    exact .inl ⟨e, rfl, hfind⟩
  | ok pair =>
    rw [hpair] at hfind
    exact .inr ⟨pair, rfl, hfind, sessionOf_pair hS hsigned hG huuid hlater.mem hpair⟩

end

/-! ## One session -/

/-- The rows in the order they are stored. -/
def firstRow : Finder where
  pick store filter := store.users.rows.find? filter
  mem _ _ _ h := ⟨List.mem_of_find?_eq_some h, List.find?_some h⟩
  none store filter h u hu := by simpa using List.find?_eq_none.mp h u hu

/-- A library that signs what is in a list of tokens. -/
def listed (tokens : List (String × Claims × String)) : Jsonwebtoken String where
  sign claims secret expiresIn now :=
    match inClear.sign claims secret expiresIn now with
    | .error e => .error e
    | .ok x =>
      match tokens.find? fun r => decide (r.2 = x ∧ tokens.lookup r.1 = some x) with
      | some r => .ok r.1
      | none => .error secretRequired
  verify token secret now :=
    match tokens.lookup token with
    | some x => inClear.verify x secret now
    | none => .error .JsonWebTokenError
  decode token := (tokens.lookup token).map Prod.fst

section
variable {tokens : List (String × Claims × String)} {claims : Claims} {secret token : String}
  {expiresIn : Nat} {now : Int}

theorem listed_sign (h : (listed tokens).sign claims secret expiresIn now = .ok token) :
    ∃ x, inClear.sign claims secret expiresIn now = .ok x ∧ tokens.lookup token = some x ∧
      token ∈ tokens.map Prod.fst := by
  simp only [listed] at h
  split at h
  · cases h
  · next x hx =>
    split at h
    · next r hr =>
      cases h
      have hfound : r.2 = x ∧ tokens.lookup r.1 = some x := by simpa using List.find?_some hr
      exact ⟨x, hx, hfound.2, List.mem_map_of_mem (List.mem_of_find?_eq_some hr)⟩
    · cases h

theorem listed_lawful : (listed tokens).Lawful := by
  constructor
  · intro claims secret expiresIn now hexp
    obtain ⟨e, he⟩ := inClear_lawful.sign_exp claims secret expiresIn now hexp
    exact ⟨e, by simp only [listed, he]⟩
  · intro claims secret expiresIn now token hiat hexp h
    obtain ⟨x, hx, hl, -⟩ := listed_sign h
    have hc := inClear_lawful.carries claims secret expiresIn now x hiat hexp hx
    constructor
    · exact hc.exp_eq
    · simp only [listed, hl, Option.map_some]
      exact hc.decode
    · intro now hnow
      simp only [listed, hl]
      exact hc.expired now hnow
    · intro now hnow
      simp only [listed, hl]
      exact hc.accepted now hnow
    · intro secret' now c hv
      simp only [listed, hl] at hv
      exact hc.signed secret' now c hv

theorem listed_noSpace (h : ∀ t ∈ tokens.map Prod.fst, ' ' ∉ t.toList)
    (hs : (listed tokens).sign claims secret expiresIn now = .ok token) : ' ' ∉ token.toList := by
  obtain ⟨-, -, -, hm⟩ := listed_sign hs
  exact h token hm

end

def doraId : String := "6f1c0a52-9b3e-4d7f-8a21-0c5d6e7f8a9b"

def doraUser : User := ⟨doraId, "Dora", "dora@example.com", "x$secret", none, .user, true⟩

def doraTokens : List (String × Claims × String) :=
  [("aaa.bbb.ccc", JWTService.stamped doraUser.payload "access" "15m" 0, "s"),
    ("aaa.ddd.eee", JWTService.stamped doraUser.payload "refresh" "7d" 0, "r")]

/-- The service of the users, and the gateway with another refresh secret. -/
def doraService (refreshSecret : String) : JWTService String :=
  ⟨listed doraTokens, ⟨"s", refreshSecret, "15m", "7d"⟩⟩

/-- The hash ends in its password. -/
def endsIn (password hash : String) : Bool := password.toList.isSuffixOf hash.toList

theorem endsIn_salted (salt password : String) : endsIn password (salted salt password) = true := by
  rw [endsIn, List.isSuffixOf_iff_suffix, salted, String.toList_append]
  exact List.suffix_append _ _

def doraStored : List RegisterEvent :=
  [.proc 0 ⟨⟨"", ""⟩, false⟩, .proc 0 ⟨⟨doraId, "x"⟩, false⟩]

/-- A filter for any email. -/
def anyEmail : EmailField := .object (some fun _ => true)

theorem loginRequest_sound_any : ∃ user ∈ (UserStore.single doraUser).users.rows,
    endsIn "secret" user.password = true ∧ user.withoutPassword = doraUser.withoutPassword := by
  have hlogin : loginRequest (doraService "r") endsIn firstRow (.single doraUser) 0 anyEmail
      (.string "secret") = .ok ⟨⟨"aaa.bbb.ccc", "aaa.ddd.eee", 900, 604800⟩,
        doraUser.withoutPassword⟩ := by
    rfl
  obtain ⟨user, hm, -, -, ⟨p, hp, hc⟩, huser, -⟩ := loginRequest_sound listed_lawful hlogin
  cases hp
  exact ⟨user, hm, hc, huser.symm⟩

theorem session_of_dora : ∃ pair,
    loginRequest (doraService "r") endsIn firstRow (twoDorasAfter doraStored).shared 0
        (.value (.string "dora@example.com")) (.string "secret") =
          .ok ⟨pair, doraUser.withoutPassword⟩ ∧
      authMiddleware (doraService "other") 899999 (bearer pair.accessToken) =
        .next (.string doraId) (.string "dora@example.com") (.string "user") := by
  have hp : LTS.execAll (Pool.step (register salted).spec) twoDoras doraStored =
    some (twoDorasAfter doraStored) := rfl
  have hc : (twoDorasAfter doraStored).procs[0]? = some ⟨dora, .done (.ok doraUser)⟩ := rfl
  have h : ((register salted).calls fun store => store = UserStore.empty).Reachable
    (twoDorasAfter doraStored) := LTS.reachable_of_execAll doraStored twoDoras_start hp
  have huuid : Uuid.Canonical doraUser.id := ⟨_, rfl, by decide +kernel⟩
  have hspace : ∀ t ∈ doraTokens.map Prod.fst, ' ' ∉ t.toList := by decide
  have hpair : (doraService "r").generateTokenPair 0 doraUser.payload.claims =
    .ok ⟨"aaa.bbb.ccc", "aaa.ddd.eee", 900, 604800⟩ := rfl
  rcases session_of_registered (S := doraService "r") (G := doraService "other")
    (F := firstRow) (t := 0)
    h hc (.refl _) (.refl _) endsIn_salted listed_lawful (fun _ _ _ _ _ hs =>
      listed_noSpace hspace hs)
    ⟨rfl, rfl⟩ huuid with ⟨e, he, -⟩ | ⟨pair, hok, hlogin, hsession⟩
  · rw [hpair] at he
    cases he
  · rw [hpair] at hok
    cases hok
    exact ⟨_, hlogin, (hsession.accepted 899999 (by decide)).1⟩

end RouteGo.Users
