import RouteGo.Utils.Jwt
import Mathlib.Data.Rat.Floor

/-!
# When a token has expired

Three functions of `jwt.ts` decide it: `isTokenExpired` and `getTokenRemainingTime`
compare milliseconds, `verifyAccessToken` leaves it to the library, which compares
whole seconds. They agree at every instant but the one at which the token expires
(`expiryAgrees_iff`).
-/

namespace RouteGo.Jwt

open Js

universe u

/-- `exp * 1000`. -/
def milliseconds : Number → Number
  | .fin q => .fin (q * 1000)
  | n => n

/-- `Math.max(0, Math.floor(remaining / 1000))`. -/
def wholeSeconds : Number → Number
  | .fin q => .fin (max 0 (q / 1000).floor : Int)
  | .negInf => .fin 0
  | n => n

/-- `ms - now`. -/
def remainingFrom (ms : Number) (now : Int) : Number :=
  match ms with
  | .fin q => .fin (q - now)
  | n => n

namespace JWTService

variable {τ : Type u}

def decodeToken (S : JWTService τ) (token : τ) : Option Claims := S.jwt.decode token

def isTokenExpired (S : JWTService τ) (token : τ) (now : Int) : Bool :=
  match S.decodeToken token with
  | none => true
  | some decoded =>
    if !decoded.exp.truthy then true
    else (milliseconds decoded.exp.toNumber).lt (.ofInt now)

def getTokenRemainingTime (S : JWTService τ) (token : τ) (now : Int) : Number :=
  match S.decodeToken token with
  | none => .fin 0
  | some decoded =>
    if !decoded.exp.truthy then .fin 0
    else wholeSeconds (remainingFrom (milliseconds decoded.exp.toNumber) now)

section
variable {S : JWTService τ} {token : τ} {claims : Claims} {exp now : Int}

theorem milliseconds_ofInt (exp : Int) : milliseconds (.ofInt exp) = .ofInt (exp * 1000) := by
  simp [milliseconds, Number.ofInt]

/-- Milliseconds, compared strictly. -/
theorem isTokenExpired_carries {secret : String} (hc : S.jwt.Carries token secret claims exp)
    (hpos : 0 < exp) : S.isTokenExpired token now = true ↔ exp * 1000 < now := by
  have ht : (Value.ofInt exp).truthy = true := Value.truthy_ofInt (by omega)
  simp only [isTokenExpired, decodeToken, hc.decode, hc.exp_eq, ht, Bool.not_true,
    Bool.false_eq_true, if_false]
  show (milliseconds (.ofInt exp)).lt _ = true ↔ _
  rw [milliseconds_ofInt, Number.lt_ofInt, decide_eq_true_eq]

/-- A whole second must be left. -/
theorem getTokenRemainingTime_carries {secret : String} (hc : S.jwt.Carries token secret claims exp)
    (hpos : 0 < exp) : Number.lt (.fin 0) (S.getTokenRemainingTime token now) = true ↔
      now + 1000 ≤ exp * 1000 := by
  have ht : (Value.ofInt exp).truthy = true := Value.truthy_ofInt (by omega)
  simp only [getTokenRemainingTime, decodeToken, hc.decode, hc.exp_eq, ht, Bool.not_true,
    Bool.false_eq_true, if_false]
  have hleft : remainingFrom (milliseconds (Value.ofInt exp).toNumber) now =
    .ofInt (exp * 1000 - now) := by
    show remainingFrom (milliseconds (.ofInt exp)) now = _
    rw [milliseconds_ofInt]
    simp [remainingFrom, Number.ofInt]
  have hone : 1 ≤ ((exp * 1000 - now : Int) / 1000 : ℚ).floor ↔ now + 1000 ≤ exp * 1000 := by
    rw [Rat.le_floor_iff, le_div_iff₀ (by norm_num)]
    norm_cast
    omega
  rw [hleft, ← hone]
  simp only [Number.ofInt, wholeSeconds, Number.lt, decide_eq_true_eq]
  norm_cast
  omega

theorem verifyAccessToken_carries (hc : S.jwt.Carries token S.config.accessSecret claims exp)
    (ht : claims.tokenType = .string "access") :
    S.verifyAccessToken token now = if exp * 1000 ≤ now then .error accessExpired
      else .ok claims := by
  split
  · have hexp : exp ≤ now / 1000 := by omega
    unfold verifyAccessToken verifyAs
    rw [hc.expired now hexp]
  · exact verifyAs_carries hc ht (by omega)

/-- The three functions agree on the token. -/
structure ExpiryAgrees (S : JWTService τ) (token : τ) (now : Int) : Prop where
  expired : S.isTokenExpired token now = true ↔ S.verifyAccessToken token now = .error accessExpired
  remaining : Number.lt (.fin 0) (S.getTokenRemainingTime token now) = true →
    ∃ c, S.verifyAccessToken token now = .ok c

/-- With a second left the token is accepted, at any instant. -/
theorem accepted_of_remaining (hc : S.jwt.Carries token S.config.accessSecret claims exp)
    (ht : claims.tokenType = .string "access") (hpos : 0 < exp)
    (h : Number.lt (.fin 0) (S.getTokenRemainingTime token now) = true) :
    S.verifyAccessToken token now = .ok claims := by
  rw [getTokenRemainingTime_carries hc hpos] at h
  rw [verifyAccessToken_carries hc ht, if_neg (by omega)]

/-- **Expiry.** The functions agree at every instant but `exp` itself, when the library
takes the token for expired and `isTokenExpired` does not. -/
theorem expiryAgrees_iff (hc : S.jwt.Carries token S.config.accessSecret claims exp)
    (ht : claims.tokenType = .string "access") (hpos : 0 < exp) :
    ExpiryAgrees S token now ↔ now ≠ exp * 1000 := by
  have hv : S.verifyAccessToken token now =
    if exp * 1000 ≤ now then .error accessExpired else .ok claims := verifyAccessToken_carries hc ht
  constructor
  · rintro ⟨hexpired, -⟩ hnow
    rw [isTokenExpired_carries hc hpos, hv, if_pos (by omega)] at hexpired
    have := hexpired.mpr rfl
    omega
  · intro hnow
    constructor
    · rw [isTokenExpired_carries hc hpos, hv]
      split
      · exact iff_of_true (by omega) rfl
      · exact iff_of_false (by omega) nofun
    · intro hleft
      exact ⟨claims, accepted_of_remaining hc ht hpos hleft⟩

end

def quarterHour : JWTService (Claims × String) := ⟨inClear, ⟨"s", "r", "15m", "7d"⟩⟩

/-- An access token that expires at the second 900. -/
def accessClaims : Claims :=
  ⟨.string "u1", .string "ann@example.com", .string "USER", .string "access", .ofInt 0, .ofInt 900⟩

/-- One millisecond before. -/
theorem expiryAgrees_before : ExpiryAgrees quarterHour (accessClaims, "s") 899999 :=
  (expiryAgrees_iff (inClear_carries rfl) rfl (by decide)).mpr (by decide)

/-- **The instant of expiry**: the token is refused, and not taken for expired. -/
theorem exists_not_expiryAgrees : ¬ ∀ (S : JWTService (Claims × String)) (token : Claims × String)
    (claims : Claims) (exp now : Int), S.jwt.Carries token S.config.accessSecret claims exp →
      claims.tokenType = .string "access" → 0 < exp → ExpiryAgrees S token now := by
  intro hall
  have hagrees := hall quarterHour (accessClaims, "s") accessClaims 900 900000
    (inClear_carries rfl) rfl
    (by decide)
  have hverify : quarterHour.verifyAccessToken (accessClaims, "s") 900000 = .error accessExpired :=
    rfl
  have hexpired : quarterHour.isTokenExpired (accessClaims, "s") 900000 = false := by decide +kernel
  rw [hagrees.expired.mpr hverify] at hexpired
  cases hexpired

end JWTService

end RouteGo.Jwt
