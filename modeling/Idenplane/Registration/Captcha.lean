import Mathlib.Data.Rat.Defs
import Mathlib.Algebra.Order.Ring.Rat
import Idenplane.Claims

/-! # The CAPTCHA service -/

namespace Idenplane.Registration

def RECAPTCHA : String := "recaptcha"
def HCAPTCHA : String := "hcaptcha"
def NONE : String := "none"

structure CaptchaVerificationResult where
  success : Bool
  score : Option ℚ := none
  errorCodes : Option (List String) := none
  deriving DecidableEq

/-- The answer of a `siteverify` endpoint. -/
structure SiteVerify where
  success : Bool
  score : Option ℚ := none
  errorCodes : Option (List String) := none
  action : Option String := none
  deriving DecidableEq

structure CaptchaService where
  RECAPTCHA_SECRET_KEY : Option String := none
  RECAPTCHA_SCORE_THRESHOLD : ℚ := 1 / 2
  HCAPTCHA_SECRET_KEY : Option String := none
  /-- `siteverify` of the provider, by secret and response; `none` where it throws. -/
  siteVerify : String → String → String → Option SiteVerify

namespace CaptchaService

variable (service : CaptchaService)

def verificationError : CaptchaVerificationResult :=
  { success := false, errorCodes := some ["verification-error"] }

def verifyRecaptcha (token : String) (expectedAction : Option String) :
    CaptchaVerificationResult :=
  match given service.RECAPTCHA_SECRET_KEY with
  | none => { success := true }
  | some secretKey =>
    match service.siteVerify RECAPTCHA secretKey token with
    | none => verificationError
    | some data =>
      if !data.success then { success := false, errorCodes := data.errorCodes }
      else if (given expectedAction).isSome && data.action != expectedAction then
        { success := false, errorCodes := some ["invalid-action"] }
      else if data.score.any (· < service.RECAPTCHA_SCORE_THRESHOLD) then
        { success := false, errorCodes := some ["score-too-low"], score := data.score }
      else { success := true, score := data.score }

def verifyHcaptcha (token : String) : CaptchaVerificationResult :=
  match given service.HCAPTCHA_SECRET_KEY with
  | none => { success := true }
  | some secretKey =>
    match service.siteVerify HCAPTCHA secretKey token with
    | none => verificationError
    | some data =>
      if !data.success then { success := false, errorCodes := data.errorCodes }
      else { success := true }

def verify (token provider : String) (expectedAction : Option String) :
    CaptchaVerificationResult :=
  if provider = RECAPTCHA then service.verifyRecaptcha token expectedAction
  else if provider = HCAPTCHA then service.verifyHcaptcha token
  else { success := true }

end CaptchaService

end Idenplane.Registration
