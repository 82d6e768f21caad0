import RouteGo.Utils.Jwt

/-!
# The two kinds of token

They are told apart by the `tokenType` claim, whatever the secrets
(`kinds_apart`). A refresh token is refreshed never: its claims come back with the
`exp` that `sign` does not accept a second time (`not_refreshes`).
-/

namespace RouteGo.Jwt

open Js

universe u

/-- What a token is made for: a user, and at run time perhaps a `tokenType` beside. -/
structure Payload where
  id : String
  email : String
  role : String
  tokenType : Value := .undefined

def Payload.claims (p : Payload) : Claims :=
  ⟨.string p.id, .string p.email, .string p.role, p.tokenType, .undefined, .undefined⟩

/-- The claims are those of the user. -/
structure Payload.IsUser (p : Payload) (c : Claims) : Prop where
  id : c.id = .string p.id
  email : c.email = .string p.email
  role : c.role = .string p.role

namespace JWTService

section
variable {τ : Type u} {S : JWTService τ} {p : Payload} {t now : Int} {token : τ}

/-- When the token expires, in seconds. -/
def expiry (t : Int) (expiresIn : String) : Int := t / 1000 + getExpirationTime expiresIn

/-- What `sign` makes of the user at `t`. -/
def stamped (p : Payload) (tokenType expiresIn : String) (t : Int) : Claims :=
  { p.claims with
    tokenType := .string tokenType
    iat := .ofInt (t / 1000)
    exp := .ofInt (expiry t expiresIn) }

theorem isUser_stamped (tokenType expiresIn : String) :
    p.IsUser (stamped p tokenType expiresIn t) :=
  ⟨rfl, rfl, rfl⟩

theorem carries_of_access (hS : S.jwt.Lawful) (h : S.generateAccessToken t p.claims = .ok token) :
    S.jwt.Carries token S.config.accessSecret (stamped p "access" S.config.accessExpiresIn t)
      (expiry t S.config.accessExpiresIn) :=
  hS.carries _ _ _ _ _ rfl rfl h

theorem carries_of_refresh (hS : S.jwt.Lawful) (h : S.generateRefreshToken t p.claims = .ok token) :
    S.jwt.Carries token S.config.refreshSecret (stamped p "refresh" S.config.refreshExpiresIn t)
      (expiry t S.config.refreshExpiresIn) :=
  hS.carries _ _ _ _ _ rfl rfl h

/-- Until its expiry the token is accepted by `verify` as the user's, and `other`
never accepts it. -/
structure Separate (p : Payload) (token : τ) (exp : Int)
    (verify other : τ → Int → Except AppError Claims) : Prop where
  accepted : ∀ now : Int, now / 1000 < exp → ∃ c, verify token now = .ok c ∧ p.IsUser c
  rejected : ∀ now, ∃ e, other token now = .error e

/-- The secrets play no part: the claim is what keeps the types apart. -/
theorem separate_of_carries {tokenType other secret secret' expiresIn : String} {exp : Int}
    {expired invalid expired' invalid' : AppError}
    (hc : S.jwt.Carries token secret (stamped p tokenType expiresIn t) exp)
    (hne : tokenType ≠ other) :
    Separate p token exp (S.verifyAs tokenType secret expired invalid)
      (S.verifyAs other secret' expired' invalid') := by
  constructor
  · intro now hnow
    exact ⟨_, verifyAs_carries hc rfl hnow, isUser_stamped _ _⟩
  · intro now
    exact verifyAs_other_type hc fun heq => hne (Value.string.inj heq)

/-- **Kinds of token.** For every configuration, be the secrets equal or not, and
every user, with a stray `tokenType` or without. -/
theorem kinds_apart (hS : S.jwt.Lawful) (p : Payload) (t : Int) (token : τ) :
    (S.generateAccessToken t p.claims = .ok token →
      Separate p token (expiry t S.config.accessExpiresIn) S.verifyAccessToken
        S.verifyRefreshToken) ∧
    (S.generateRefreshToken t p.claims = .ok token →
      Separate p token (expiry t S.config.refreshExpiresIn) S.verifyRefreshToken
        S.verifyAccessToken) := by
  constructor
  · intro h
    exact separate_of_carries (carries_of_access hS h) (by decide)
  · intro h
    exact separate_of_carries (carries_of_refresh hS h) (by decide)

end

/-- Both kinds of token under one secret. -/
def sharedSecret : JWTService (Claims × String) := ⟨inClear, ⟨"s", "s", "15m", "7d"⟩⟩

def ann : Payload := ⟨"u1", "ann@example.com", "USER", .string "refresh"⟩

/-- The payload says that it is of the other type. -/
theorem kinds_apart_shared : ∃ token, sharedSecret.generateAccessToken 1999 ann.claims = .ok token ∧
    Separate ann token 901 sharedSecret.verifyAccessToken sharedSecret.verifyRefreshToken := by
  have h : sharedSecret.generateAccessToken 1999 ann.claims = .ok _ := rfl
  exact ⟨_, h, (kinds_apart inClear_lawful ann 1999 _).1 h⟩

/-! ## Refreshing -/

section
variable {τ : Type u} {S : JWTService τ} {p : Payload} {t now exp : Int} {token : τ}
  {claims : Claims}

/-- The user gets a new pair, and both of its tokens are accepted. -/
def Refreshes (S : JWTService τ) (p : Payload) (token : τ) (now : Int) : Prop :=
  ∃ pair, S.refreshToken now token = .ok pair ∧
    (∃ c, S.verifyAccessToken pair.accessToken now = .ok c ∧ p.IsUser c) ∧
    ∃ c, S.verifyRefreshToken pair.refreshToken now = .ok c ∧ p.IsUser c

/-- The verified claims have an `exp`, and are signed with it. -/
theorem refreshToken_carries (hS : S.jwt.Lawful)
    (hc : S.jwt.Carries token S.config.refreshSecret claims exp) (now : Int) :
    ∃ e, S.refreshToken now token = .error e := by
  unfold refreshToken
  cases hv : S.verifyRefreshToken token now with
  | error e => exact ⟨e, rfl⟩
  | ok payload =>
    obtain ⟨hok, -⟩ := verifyAs_ok.mp hv
    obtain rfl := hc.signed _ now payload hok
    have hexp : payload.exp ≠ .undefined := by
      rw [hc.exp_eq]
      exact Value.noConfusion
    obtain ⟨e, he⟩ := hS.sign_exp { payload with tokenType := .string "access" }
      S.config.accessSecret
      (getExpirationTime S.config.accessExpiresIn) now hexp
    refine ⟨e, ?_⟩
    show S.generateTokenPair now { payload with tokenType := .undefined } = .error e
    unfold generateTokenPair generateAccessToken
    rw [he]

/-- **No refreshing.** Before its expiry every refresh token is refused a pair. -/
theorem not_refreshes (hS : S.jwt.Lawful) (h : S.generateRefreshToken t p.claims = .ok token)
    (hnow : now / 1000 < expiry t S.config.refreshExpiresIn) :
    (∃ c, S.verifyRefreshToken token now = .ok c ∧ p.IsUser c) ∧ ¬ Refreshes S p token now := by
  have hc := carries_of_refresh hS h
  refine ⟨⟨_, verifyAs_carries hc rfl hnow, isUser_stamped _ _⟩, ?_⟩
  rintro ⟨pair, hpair, -⟩
  obtain ⟨e, he⟩ := refreshToken_carries hS hc now
  rw [he] at hpair
  cases hpair

end

/-- One second after the log-in. -/
theorem not_refreshes_ann : ∃ token, sharedSecret.generateRefreshToken 1999 ann.claims = .ok token ∧
    ¬ Refreshes sharedSecret ann token 2999 := by
  have h : sharedSecret.generateRefreshToken 1999 ann.claims = .ok _ := rfl
  exact ⟨_, h, (not_refreshes inClear_lawful h (by decide)).2⟩

/-- **A pair that is not given.** -/
theorem exists_not_refreshed : ¬ ∀ (S : JWTService (Claims × String)) (p : Payload) (t now : Int)
    (token : Claims × String), S.jwt.Lawful → S.generateRefreshToken t p.claims = .ok token →
      now / 1000 < expiry t S.config.refreshExpiresIn → Refreshes S p token now := by
  intro hall
  obtain ⟨pair, hpair, -⟩ := hall sharedSecret ann 1999 2999 (stamped ann "refresh" "7d" 1999, "s")
    inClear_lawful rfl (by decide)
  have hthrows : sharedSecret.refreshToken 2999 (stamped ann "refresh" "7d" 1999, "s") =
    .error badExpiresIn := rfl
  rw [hthrows] at hpair
  cases hpair

end JWTService

end RouteGo.Jwt
