import RouteGo.Utils.Http
import RouteGo.Utils.HttpResponse
import RouteGo.Utils.TokenKinds

/-!
# Refusals of the gateway

`auth.middleware.ts` over any `JWTService`, with the response it sends. A token that
is refused is not answered as a missing one is: the error of `verifyAccessToken` has
no status, and the client gets 500 (`answersRight_iff`).
-/

namespace RouteGo.Gateway.Middleware

open Js Jwt

/-- `s.split(" ")`. -/
def splitSpaces (s : String) : List String := (s.toList.splitOn ' ').map String.ofList

def startsWithBearer (authHeader : String) : Bool := "Bearer ".toList.isPrefixOf authHeader.toList

def headerInvalid : HttpError :=
  .UnauthorizedError "Authorization header missing or invalid format (Bearer token required)"

def tokenInvalid : HttpError := .UnauthorizedError "Invalid or expired access token"

/-- The body of the `try`, up to `next`. -/
def authorize (S : JWTService String) (now : Int) (authorization : Header) :
    Except HttpError Claims :=
  match authorization with
  | none => .error headerInvalid
  | some authHeader =>
    if authHeader = "" ∨ startsWithBearer authHeader = false then .error headerInvalid
    else
      match S.verifyAccessToken ((splitSpaces authHeader)[1]?.getD "") now with
      | .error e => .error (.app e)
      | .ok payload => if payload.id.truthy then .ok payload else .error tokenInvalid

/-- The request goes on with the identity in its headers, or it is answered. -/
inductive Outcome where
  | next (xUserId xUserEmail xUserRole : Value)
  | answer (response : ErrorResponse)

def authMiddleware (S : JWTService String) (now : Int) (authorization : Header) : Outcome :=
  match authorize S now authorization with
  | .ok payload => .next payload.id payload.email payload.role
  | .error e => .answer (AppResponse.error e)

/-! ## What is answered -/

section
variable {S : JWTService String} {now : Int} {authorization : Header}

/-- The header starts with the word, and `token` is its second piece. -/
def Bears (authorization : Header) (token : String) : Prop :=
  ∃ authHeader, authorization = some authHeader ∧ startsWithBearer authHeader = true ∧
    (splitSpaces authHeader)[1]? = some token

/-- The header bears a token of somebody. -/
def Authorized (S : JWTService String) (now : Int) (authorization : Header) : Prop :=
  ∃ token payload, Bears authorization token ∧ S.verifyAccessToken token now = .ok payload ∧
    payload.id.truthy = true

/-- The header bears a token that `verifyAccessToken` refuses. -/
def TokenRefused (S : JWTService String) (now : Int) (authorization : Header) : Prop :=
  ∃ token e, Bears authorization token ∧ S.verifyAccessToken token now = .error e

def Outcome.IsNext : Outcome → Prop
  | .next .. => True
  | .answer _ => False

/-- The request is answered with this status. -/
def Outcome.HasStatus (status : Nat) : Outcome → Prop
  | .next .. => False
  | .answer response => response.status = status

theorem Bears.inj {token token' : String} (h : Bears authorization token)
    (h' : Bears authorization token') : token = token' := by
  obtain ⟨authHeader, rfl, -, ht⟩ := h
  obtain ⟨authHeader', heq, -, ht'⟩ := h'
  obtain rfl := Option.some.inj heq
  exact Option.some.inj (ht.symm.trans ht')

/-- A header that starts with the word has a second piece. -/
theorem exists_second_piece {authHeader : String} (h : startsWithBearer authHeader = true) :
    ∃ token, (splitSpaces authHeader)[1]? = some token := by
  obtain ⟨rest, hrest⟩ := List.isPrefixOf_iff_prefix.mp h
  have hsplit : authHeader.toList.splitOn ' ' = "Bearer".toList :: rest.splitOn ' ' := by
    have hword : ' ' ∉ "Bearer".toList := by decide
    rw [← hrest]
    exact List.splitOn_append_cons_self_of_not_mem hword rest
  obtain ⟨piece, hpiece⟩ : ∃ piece, (rest.splitOn ' ')[0]? = some piece :=
    ⟨_, List.getElem?_eq_getElem (List.length_pos_of_ne_nil (List.splitOn_ne_nil ' ' rest))⟩
  refine ⟨String.ofList piece, ?_⟩
  rw [splitSpaces, hsplit, List.map_cons, List.getElem?_cons_succ, List.getElem?_map, hpiece,
    Option.map_some]

theorem authorize_of_not_bears (h : ∀ token, ¬ Bears authorization token) :
    authorize S now authorization = .error headerInvalid := by
  cases authorization with
  | none => rfl
  | some authHeader =>
    refine if_pos (.inr ?_)
    by_contra hb
    rw [Bool.not_eq_false] at hb
    obtain ⟨token, ht⟩ := exists_second_piece hb
    exact h token ⟨authHeader, rfl, hb, ht⟩

theorem authorize_of_bears {token : String} (h : Bears authorization token) :
    authorize S now authorization =
      match S.verifyAccessToken token now with
      | .error e => .error (.app e)
      | .ok payload => if payload.id.truthy then .ok payload else .error tokenInvalid := by
  obtain ⟨authHeader, rfl, hb, ht⟩ := h
  have hne : ¬ (authHeader = "" ∨ startsWithBearer authHeader = false) := by
    rintro (rfl | hf)
    · exact absurd hb (by decide)
    · rw [hb] at hf
      cases hf
  simp only [authorize, if_neg hne, ht, Option.getD_some]

theorem authorize_ok {payload : Claims} : authorize S now authorization = .ok payload ↔
    ∃ token, Bears authorization token ∧ S.verifyAccessToken token now = .ok payload ∧
      payload.id.truthy = true := by
  constructor
  · intro h
    by_cases hb : ∃ token, Bears authorization token
    · obtain ⟨token, hb⟩ := hb
      rw [authorize_of_bears hb] at h
      split at h
      · cases h
      · next payload' hv =>
        split at h
        · next hid => cases h; exact ⟨token, hb, hv, hid⟩
        · cases h
    · rw [authorize_of_not_bears (not_exists.mp hb)] at h
      cases h
  · rintro ⟨token, hb, hv, hid⟩
    rw [authorize_of_bears hb, hv]
    exact if_pos hid

/-- Why a request does not go on. -/
theorem authorize_error {e : HttpError} (h : authorize S now authorization = .error e) :
    AppResponse.httpStatus e = 401 ∧ ¬ TokenRefused S now authorization ∨
      AppResponse.httpStatus e = 500 ∧ TokenRefused S now authorization := by
  by_cases hb : ∃ token, Bears authorization token
  · obtain ⟨token, hb⟩ := hb
    rw [authorize_of_bears hb] at h
    split at h
    · next e' hv =>
      cases h
      obtain ⟨message, rfl⟩ := JWTService.verifyAccessToken_error hv
      exact .inr ⟨rfl, token, _, hb, hv⟩
    · next payload hv =>
      split at h
      · cases h
      · cases h
        refine .inl ⟨rfl, ?_⟩
        rintro ⟨token', e', hb', hv'⟩
        obtain rfl := hb.inj hb'
        rw [hv] at hv'
        cases hv'
  · rw [authorize_of_not_bears (not_exists.mp hb)] at h
    cases h
    refine .inl ⟨rfl, ?_⟩
    rintro ⟨token, e, hb', -⟩
    exact hb ⟨token, hb'⟩

/-- Next for whom it should be, and 401 for the others. -/
structure AnswersRight (S : JWTService String) (now : Int) (authorization : Header) : Prop where
  next : (authMiddleware S now authorization).IsNext ↔ Authorized S now authorization
  refused : ¬ (authMiddleware S now authorization).IsNext →
    (authMiddleware S now authorization).HasStatus 401

theorem isNext_iff : (authMiddleware S now authorization).IsNext ↔
    Authorized S now authorization := by
  unfold authMiddleware
  constructor
  · intro h
    split at h
    · next payload ha =>
      obtain ⟨token, hb, hv, hid⟩ := authorize_ok.mp ha
      exact ⟨token, payload, hb, hv, hid⟩
    · exact h.elim
  · rintro ⟨token, payload, hb, hv, hid⟩
    rw [authorize_ok.mpr ⟨token, hb, hv, hid⟩]
    trivial

theorem Authorized.not_tokenRefused (h : Authorized S now authorization) :
    ¬ TokenRefused S now authorization := by
  rintro ⟨token', e, hb', hv'⟩
  obtain ⟨token, payload, hb, hv, -⟩ := h
  obtain rfl := hb.inj hb'
  rw [hv] at hv'
  cases hv'

theorem status_of_answer {response : ErrorResponse}
    (h : authMiddleware S now authorization = .answer response) :
    response.status = 401 ∧ ¬ TokenRefused S now authorization ∨
      response.status = 500 ∧ TokenRefused S now authorization := by
  unfold authMiddleware at h
  split at h
  · cases h
  · next e ha =>
    cases h
    exact authorize_error ha

/-- **401** is the answer to a missing header and to a token of nobody, and to no
token that is refused. -/
theorem answersRight_iff : AnswersRight S now authorization ↔
    ¬ TokenRefused S now authorization := by
  cases hout : authMiddleware S now authorization with
  | next xUserId xUserEmail xUserRole =>
    have hnext : (authMiddleware S now authorization).IsNext := by
      rw [hout]
      trivial
    exact iff_of_true ⟨isNext_iff, fun h => absurd hnext h⟩ (isNext_iff.mp hnext).not_tokenRefused
  | answer response =>
    have hnext : ¬ (authMiddleware S now authorization).IsNext := by
      rw [hout]
      exact id
    rcases status_of_answer hout with ⟨h401, ht⟩ | ⟨h500, ht⟩
    · refine iff_of_true ⟨isNext_iff, fun _ => ?_⟩ ht
      rw [hout]
      exact h401
    · refine iff_of_false (fun hright => ?_) (not_not.mpr ht)
      have hstatus := hright.refused hnext
      rw [hout] at hstatus
      have h401 : response.status = 401 := hstatus
      omega

/-- A refresh token lets nobody through, whatever the secrets. -/
theorem not_isNext_of_refresh {p : Payload} {t : Int} {token : String} (hS : S.jwt.Lawful)
    (h : S.generateRefreshToken t p.claims = .ok token) (hb : Bears authorization token) :
    ¬ (authMiddleware S now authorization).IsNext := by
  have hc := JWTService.carries_of_refresh hS h
  have hne : Value.string "refresh" ≠ .string "access" := by decide
  obtain ⟨e, he⟩ : ∃ e, S.verifyAccessToken token now = .error e :=
    JWTService.verifyAs_other_type hc hne
  intro hnext
  exact (isNext_iff.mp hnext).not_tokenRefused ⟨token, e, hb, he⟩

end

/-- The library where no text it is given is a token. -/
def noToken : Jsonwebtoken String where
  sign _ _ _ _ := .error (.Error "secretOrPrivateKey must have a value")
  verify _ _ _ := .error .JsonWebTokenError
  decode _ := none

def garbled : JWTService String := ⟨noToken, ⟨"s", "r", "15m", "7d"⟩⟩

/-- **A token that is no token** is answered with 500. -/
theorem exists_answer_500 : ¬ ∀ (S : JWTService String) (now : Int) (authorization : Header),
    AnswersRight S now authorization := by
  intro hall
  have hright := hall garbled 0 (some "Bearer abc")
  have hanswer : authMiddleware garbled 0 (some "Bearer abc") =
    .answer ⟨500, ⟨false, 500, "Invalid access token"⟩⟩ := rfl
  have h401 := hright.refused (by rw [hanswer]; exact id)
  rw [hanswer] at h401
  exact absurd (show 500 = 401 from h401) (by decide)

end RouteGo.Gateway.Middleware
