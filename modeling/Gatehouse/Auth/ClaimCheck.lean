import Gatehouse.Auth.Claims
import Gatehouse.Log

/-!
# Checking claims

The checks that follow the verification of a signature: the audience, and the two time limits with
some leeway. Times are 64-bit seconds; sums that leave the range stay at its end.
-/

namespace Gatehouse

/-- What is demanded of claims. -/
structure ClaimCheck where
  audience : String
  leeway : Int64
  requireExpiry : Bool

namespace ClaimCheck

/-- The 64-bit number nearest to a whole number. -/
def clamp (i : Int) : Int64 :=
  if i < Int64.minValue.toInt then Int64.minValue
  else if Int64.maxValue.toInt < i then Int64.maxValue
  else Int64.ofInt i

/-- The sum, kept within the range. -/
def saturatingAdd (a b : Int64) : Int64 := clamp (a.toInt + b.toInt)

/-- The difference, kept within the range. -/
def saturatingSub (a b : Int64) : Int64 := clamp (a.toInt - b.toInt)

/-- The audience must be among those named. -/
def checkAudience (v : ClaimCheck) (c : Claims) : Except ClaimsError Unit :=
  if c.audiences.contains v.audience then .ok ()
  else .error (.invalidAudience v.audience c.audiences)

/-- The expiry, with leeway, must not lie before now. -/
def checkExpiry (v : ClaimCheck) (c : Claims) (now : Int64) : Except ClaimsError Unit :=
  match c.expiry with
  | some e => if saturatingAdd e v.leeway < now then .error .expired else .ok ()
  | none => if v.requireExpiry then .error (.missingClaim "exp") else .ok ()

/-- The start of validity, with leeway, must not lie after now. -/
def checkStart (v : ClaimCheck) (c : Claims) (now : Int64) : Except ClaimsError Unit :=
  match c.notBefore with
  | some n => if now < saturatingSub n v.leeway then .error .notYetValid else .ok ()
  | none => .ok ()

/-- All checks, in order. -/
def check (v : ClaimCheck) (c : Claims) (now : Int64) : Except ClaimsError Unit := do
  v.checkAudience c
  v.checkExpiry c now
  v.checkStart c now

/-- The check as debug texts show it. -/
def describe (v : ClaimCheck) : String :=
  s!"ValidationConfig \x7b audience: {Text.quoted v.audience}, leeway_seconds: " ++
    s!"{v.leeway.toInt}, require_exp: {Log.flag v.requireExpiry} \x7d"

end ClaimCheck

end Gatehouse
