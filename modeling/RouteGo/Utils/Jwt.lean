import RouteGo.Js.Text
import RouteGo.Utils.HttpErrors

/-!
# `JWTService`

`jwt.ts` over `jsonwebtoken`, which is a parameter: what it makes of claims and
secrets is opaque, `Lawful` is what its documentation says of it. `inClear` is a
library that is lawful. A token is verified as one of a type exactly when `verify`
accepts it and its claims are of the type (`verifyAs_ok`).
-/

namespace RouteGo.Jwt

open Js

universe u

/-- The claims the services read and the two times; `undefined` for one that is
not there. -/
structure Claims where
  id : Value
  email : Value
  role : Value
  tokenType : Value
  iat : Value
  exp : Value
  deriving DecidableEq, Repr

/-- As they are written into the token. -/
def Claims.viaJson (c : Claims) : Claims :=
  ⟨c.id.viaJson, c.email.viaJson, c.role.viaJson, c.tokenType.viaJson, c.iat.viaJson, c.exp.viaJson⟩

/-- What `jwt.verify` throws. -/
inductive VerifyError where
  | TokenExpiredError
  | JsonWebTokenError
  | other
  deriving DecidableEq

/-! ## `jsonwebtoken` -/

/-- The library; times are in milliseconds, `expiresIn` is in seconds. -/
structure Jsonwebtoken (τ : Type u) where
  sign (claims : Claims) (secret : String) (expiresIn : Nat) (now : Int) : Except AppError τ
  verify (token : τ) (secret : String) (now : Int) : Except VerifyError Claims
  decode (token : τ) : Option Claims

namespace Jsonwebtoken

variable {τ : Type u}

/-- The token was signed with the secret and expires at the second `exp`. Under
another secret it is refused, or the claims are still those that were signed. -/
structure Carries (J : Jsonwebtoken τ) (token : τ) (secret : String) (claims : Claims) (exp : Int) :
    Prop where
  exp_eq : claims.exp = .ofInt exp
  decode : J.decode token = some claims
  expired : ∀ now : Int, exp ≤ now / 1000 → J.verify token secret now = .error .TokenExpiredError
  accepted : ∀ now : Int, now / 1000 < exp → J.verify token secret now = .ok claims
  signed : ∀ secret' now c, J.verify token secret' now = .ok c → c = claims

/-- `sign` adds the two times to claims without them, and throws when `expiresIn` is
given for claims with an `exp`. -/
structure Lawful (J : Jsonwebtoken τ) : Prop where
  sign_exp : ∀ claims secret expiresIn now, claims.exp ≠ .undefined →
    ∃ e, J.sign claims secret expiresIn now = .error e
  carries : ∀ claims secret expiresIn now token, claims.iat = .undefined → claims.exp = .undefined →
    J.sign claims secret expiresIn now = .ok token → J.Carries token secret
      { claims.viaJson with iat := .ofInt (now / 1000), exp := .ofInt (now / 1000 + expiresIn) }
      (now / 1000 + expiresIn)

end Jsonwebtoken

/-! ## Tokens in clear -/

def secretRequired : AppError := .Error "secretOrPrivateKey must have a value"

def badExpiresIn : AppError :=
  .Error "Bad \"options.expiresIn\" option the payload already has an \"exp\" property."

/-- A library whose token is the claims with the secret beside them. -/
def inClear : Jsonwebtoken (Claims × String) where
  sign claims secret expiresIn now :=
    if secret = "" then .error secretRequired
    else if claims.exp ≠ .undefined then .error badExpiresIn
    else .ok ({ claims.viaJson with
      iat := .ofInt (now / 1000)
      exp := .ofInt (now / 1000 + expiresIn) }, secret)
  verify token secret now :=
    if secret ≠ token.2 then .error .JsonWebTokenError
    else match token.1.exp with
      | .undefined => .ok token.1
      | .number exp =>
        if exp.le (.ofInt (now / 1000)) then .error .TokenExpiredError else .ok token.1
      | _ => .error .JsonWebTokenError
  decode token := some token.1

theorem inClear_carries {claims : Claims} {secret : String} {exp : Int}
    (h : claims.exp = .ofInt exp) : inClear.Carries (claims, secret) secret claims exp := by
  constructor
  · exact h
  · rfl
  · intro now hnow
    simp [inClear, h, Value.ofInt, Number.le_ofInt, hnow]
  · intro now hnow
    have hlt : ¬ exp ≤ now / 1000 := by omega
    simp [inClear, h, Value.ofInt, Number.le_ofInt, hlt]
  · intro secret' now c hv
    simp only [inClear] at hv
    split at hv
    · cases hv
    · split at hv
      · cases hv; rfl
      · split at hv <;> cases hv
        rfl
      · cases hv

theorem inClear_lawful : inClear.Lawful := by
  constructor
  · intro claims secret expiresIn now hexp
    simp only [inClear]
    split
    · exact ⟨_, rfl⟩
    · exact ⟨_, rfl⟩
  · intro claims secret expiresIn now token _ hexp h
    simp only [inClear, hexp, ne_eq, not_true_eq_false, if_false] at h
    split at h
    · cases h
    · cases h
      exact inClear_carries rfl

/-! ## The service -/

structure JWTConfig where
  accessSecret : String
  refreshSecret : String
  accessExpiresIn : String
  refreshExpiresIn : String

structure TokenPair (τ : Type u) where
  accessToken : τ
  refreshToken : τ
  accessTokenExpiresIn : Nat
  refreshTokenExpiresIn : Nat

def timeMap : Char → Option Nat
  | 's' => some 1
  | 'm' => some 60
  | 'h' => some 3600
  | 'd' => some 86400
  | 'w' => some 604800
  | 'y' => some 31536000
  | _ => none

/-- Digits and one unit; 15 minutes for any other text. -/
def getExpirationTime (expiresIn : String) : Nat :=
  match expiresIn.toList.takeWhile Char.isDigit, expiresIn.toList.dropWhile Char.isDigit with
  | c :: value, [unit] =>
    match timeMap unit with
    | some seconds => digitsVal (c :: value) * seconds
    | none => 15 * 60
  | _, _ => 15 * 60

/-- The library under a configuration. -/
structure JWTService (τ : Type u) where
  jwt : Jsonwebtoken τ
  config : JWTConfig

namespace JWTService

variable {τ : Type u}

def generateAccessToken (S : JWTService τ) (now : Int) (payload : Claims) : Except AppError τ :=
  S.jwt.sign { payload with tokenType := .string "access" } S.config.accessSecret
    (getExpirationTime S.config.accessExpiresIn) now

def generateRefreshToken (S : JWTService τ) (now : Int) (payload : Claims) : Except AppError τ :=
  S.jwt.sign { payload with tokenType := .string "refresh" } S.config.refreshSecret
    (getExpirationTime S.config.refreshExpiresIn) now

def generateTokenPair (S : JWTService τ) (now : Int) (payload : Claims) :
    Except AppError (TokenPair τ) :=
  match S.generateAccessToken now payload with
  | .error e => .error e
  | .ok accessToken =>
    match S.generateRefreshToken now payload with
    | .error e => .error e
    | .ok refreshToken => .ok {
        accessToken := accessToken
        refreshToken := refreshToken
        accessTokenExpiresIn := getExpirationTime S.config.accessExpiresIn
        refreshTokenExpiresIn := getExpirationTime S.config.refreshExpiresIn }

def verificationFailed : AppError := .Error "Token verification failed"

/-- A token of one type; the error for another type is thrown within the `try`. -/
def verifyAs (S : JWTService τ) (tokenType secret : String) (expired invalid : AppError) (token : τ)
    (now : Int) : Except AppError Claims :=
  match S.jwt.verify token secret now with
  | .ok decoded =>
    if decoded.tokenType ≠ .string tokenType then .error verificationFailed else .ok decoded
  | .error .TokenExpiredError => .error expired
  | .error .JsonWebTokenError => .error invalid
  | .error .other => .error verificationFailed

def accessExpired : AppError := .Error "Access token expired"

def verifyAccessToken (S : JWTService τ) : τ → Int → Except AppError Claims :=
  S.verifyAs "access" S.config.accessSecret accessExpired (.Error "Invalid access token")

def verifyRefreshToken (S : JWTService τ) : τ → Int → Except AppError Claims :=
  S.verifyAs "refresh" S.config.refreshSecret (.Error "Refresh token expired")
    (.Error "Invalid refresh token")

/-- The claims of the old token are signed again, without its `tokenType`. -/
def refreshToken (S : JWTService τ) (now : Int) (refreshToken : τ) :
    Except AppError (TokenPair τ) :=
  match S.verifyRefreshToken refreshToken now with
  | .error e => .error e
  | .ok payload => S.generateTokenPair now { payload with tokenType := .undefined }

/-! ## One kind of token -/

section
variable {S : JWTService τ} {tokenType secret : String} {expired invalid : AppError} {token : τ}
  {now exp : Int} {claims c : Claims}

theorem verifyAs_ok : S.verifyAs tokenType secret expired invalid token now = .ok c ↔
    S.jwt.verify token secret now = .ok c ∧ c.tokenType = .string tokenType := by
  unfold verifyAs
  constructor
  · intro h
    split at h
    · next decoded hv =>
      split at h
      · cases h
      · next ht => cases h; exact ⟨hv, not_not.mp ht⟩
    all_goals cases h
  · rintro ⟨hv, ht⟩
    simp [hv, ht]

/-- The errors carry no status of their own. -/
theorem verifyAccessToken_error {e : AppError} (h : S.verifyAccessToken token now = .error e) :
    ∃ message, e = .Error message := by
  unfold verifyAccessToken verifyAs at h
  split at h
  · split at h <;> cases h
    exact ⟨_, rfl⟩
  all_goals
    cases h
    exact ⟨_, rfl⟩

theorem verifyAs_carries (hc : S.jwt.Carries token secret claims exp)
    (ht : claims.tokenType = .string tokenType) (hnow : now / 1000 < exp) :
    S.verifyAs tokenType secret expired invalid token now = .ok claims :=
  verifyAs_ok.mpr ⟨hc.accepted now hnow, ht⟩

/-- Another type is refused under any secret and at any time. -/
theorem verifyAs_other_type {secret' : String} (hc : S.jwt.Carries token secret claims exp)
    (ht : claims.tokenType ≠ .string tokenType) :
    ∃ e, S.verifyAs tokenType secret' expired invalid token now = .error e := by
  cases hv : S.verifyAs tokenType secret' expired invalid token now with
  | error e => exact ⟨e, rfl⟩
  | ok c =>
    obtain ⟨hok, hct⟩ := verifyAs_ok.mp hv
    rw [hc.signed secret' now c hok] at hct
    exact absurd hct ht

end

end JWTService

end RouteGo.Jwt
