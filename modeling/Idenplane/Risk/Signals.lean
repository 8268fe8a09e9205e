import Mathlib.Algebra.Order.Floor.Ring
import Mathlib.Data.Rat.Floor
import Mathlib.Tactic.NormNum
import Idenplane.Lib.Text
import Idenplane.Risk.Policies

/-! # Risk signals and their scores

The signals of a login and of a running session, and the weighted mean they are brought down
to.  Numbers are rationals.  The functions of `Math`, and the texts of numbers, are those of the
language; of the former the values at the angles 0 and π/2 are known.
-/

namespace Idenplane.Risk

structure Language where
  pi : ℚ
  (sin cos sqrt : ℚ → ℚ)
  atan2 : ℚ → ℚ → ℚ
  toLowerCase : String → String
  /-- `String(number)`. -/
  text : ℚ → String
  /-- `number.toFixed(digits)`. -/
  toFixed : ℚ → Nat → String
  three_lt_pi : 3 < pi
  sin_zero : sin 0 = 0
  cos_zero : cos 0 = 1
  sin_half_pi : sin (pi / 2) = 1
  sqrt_zero : sqrt 0 = 0
  sqrt_one : sqrt 1 = 1
  atan2_up : atan2 1 0 = pi / 2
  toLowerCase_lower (text : String) : text.toList.all Char.isLower = true → toLowerCase text = text

structure RiskSignal where
  name : String
  score : ℚ
  weight : ℚ
  reason : String
  triggered : Bool
  deriving DecidableEq

def round (number : ℚ) : Int := ⌊number + 1 / 2⌋

structure UserLoginProfile where
  (knownIps knownDevices : List String)
  /-- Logins per hour of the day; an hour left open counts as zero. -/
  loginTimes : List Nat
  lastLocations : List String
  avgLoginFrequency : ℚ

def evaluateIpReputation (ip : Option String) (knownIps : List String) : RiskSignal :=
  let triggered : Bool := match ip with
    | some ip => ip != "" && !knownIps.contains ip
    | none => false
  { name := "ip_reputation"
    score := if triggered then 20 else 0
    weight := 1
    reason := if triggered then "Unknown IP address: " ++ ip.getD "" else "Known IP address"
    triggered := triggered }

section Evaluators

variable (language : Language)

/-- `location.split(',').pop()?.trim().toLowerCase() ?? ''`. -/
def countryOf (location : String) : String :=
  language.toLowerCase (Text.trim (String.ofList ((Text.split ',' location.toList).getLastD [])))

def evaluateGeoAnomaly (location : Option String) (lastLocations : List String) : RiskSignal :=
  match location.filter (· ≠ ""), lastLocations with
  | none, _ | _, [] =>
    { name := "geo_anomaly"
      score := 0
      weight := 3 / 2
      reason := "No geo anomaly detected (insufficient data)"
      triggered := false }
  | some location, _ =>
    let currentCountry := countryOf language location
    let triggered := currentCountry != "" &&
      !(lastLocations.map (countryOf language)).contains currentCountry
    { name := "geo_anomaly"
      score := if triggered then 30 else 0
      weight := 3 / 2
      reason :=
        if triggered then "Login from new country: " ++ currentCountry
        else "Login from known country"
      triggered := triggered }

def toRad (deg : ℚ) : ℚ := deg * language.pi / 180

def haversineDistance (first second : ℚ × ℚ) : ℚ :=
  let dLat := toRad language (second.1 - first.1)
  let dLon := toRad language (second.2 - first.2)
  let a := language.sin (dLat / 2) * language.sin (dLat / 2) +
    language.cos (toRad language first.1) * language.cos (toRad language second.1) *
      (language.sin (dLon / 2) * language.sin (dLon / 2))
  6371 * 2 * language.atan2 (language.sqrt a) (language.sqrt (1 - a))

def impossibleTravelSkipped (why : String) : RiskSignal where
  name := "impossible_travel"
  score := 0
  weight := 2
  reason := "Impossible travel check skipped (" ++ why ++ ")"
  triggered := false

def evaluateImpossibleTravel (previousLatLon : Option (ℚ × ℚ)) (previousTimestamp : Option Int)
    (currentLatLon : Option (ℚ × ℚ)) (currentTimestamp : Int) : RiskSignal :=
  match previousLatLon, currentLatLon, previousTimestamp with
  | some previousLatLon, some currentLatLon, some previousTimestamp =>
    let distanceKm := haversineDistance language previousLatLon currentLatLon
    let elapsedHours : ℚ := (currentTimestamp - previousTimestamp : Int) / (1000 * 60 * 60)
    if elapsedHours ≤ 0 then impossibleTravelSkipped "same-instant timestamps"
    else
      let maxFeasibleDistanceKm := elapsedHours * 900 * (6 / 5)
      let triggered : Bool := distanceKm > maxFeasibleDistanceKm
      { name := "impossible_travel"
        score := if triggered then 40 else 0
        weight := 2
        reason := (if triggered then "Impossible travel: " else "Feasible travel: ") ++
          language.text (round distanceKm) ++ " km in " ++ language.toFixed elapsedHours 2 ++ " h"
        triggered := triggered }
  | _, _, _ => impossibleTravelSkipped "insufficient data"

def evaluateTimeAnomaly (hourOfDay : Nat) (loginTimes : List Nat) : RiskSignal :=
  let totalLogins := loginTimes.foldl (· + ·) 0
  if totalLogins < 10 then
    { name := "time_anomaly"
      score := 0
      weight := 3 / 4
      reason := "Time anomaly check skipped (insufficient history)"
      triggered := false }
  else
    let maxCount := loginTimes.foldl max 0
    let currentCount := loginTimes.getD hourOfDay 0
    let triggered : Bool := (currentCount : ℚ) < maxCount * (1 / 10)
    { name := "time_anomaly"
      score := if triggered then 15 else 0
      weight := 3 / 4
      reason :=
        if triggered then
          "Unusual login time: hour " ++ toString hourOfDay ++ " (only " ++ toString currentCount ++
            " historical logins)"
        else "Normal login time: hour " ++ toString hourOfDay
      triggered := triggered }

def evaluateDeviceAnomaly (fingerprint : Option String) (knownDevices : List String) : RiskSignal :=
  let triggered : Bool := match fingerprint with
    | some fingerprint => fingerprint != "" && !knownDevices.contains fingerprint
    | none => false
  { name := "device_anomaly"
    score := if triggered then 20 else 0
    weight := 1
    reason := if triggered then "Unrecognised device fingerprint" else "Known device"
    triggered := triggered }

def evaluateLoginFrequency (recentLoginsLast24h : Nat) (avgLoginFrequency : ℚ) : RiskSignal :=
  let threshold := max (avgLoginFrequency * 3) 5
  let triggered : Bool := (recentLoginsLast24h : ℚ) > threshold
  { name := "login_frequency"
    score := if triggered then 15 else 0
    weight := 3 / 4
    reason :=
      if triggered then
        "Excessive login attempts: " ++ toString recentLoginsLast24h ++ " in last 24 h (avg " ++
          language.toFixed avgLoginFrequency 1 ++ "/day)"
      else "Normal login frequency: " ++ toString recentLoginsLast24h ++ " in last 24 h"
    triggered := triggered }

end Evaluators

def evaluateFailedAttempts (recentFailures : Nat) : RiskSignal where
  name := "failed_attempts"
  score :=
    if recentFailures ≥ 5 then 30
    else if recentFailures ≥ 3 then 20
    else if recentFailures ≥ 1 then 10
    else 0
  weight := 1
  reason :=
    if recentFailures ≥ 5 then "High number of recent failures: " ++ toString recentFailures
    else if recentFailures ≥ 3 then "Moderate recent failures: " ++ toString recentFailures
    else if recentFailures ≥ 1 then "Recent login failure(s): " ++ toString recentFailures
    else "No recent failed attempts"
  triggered := recentFailures > 0

def weightedMean (terms : List (ℚ × ℚ)) : Int :=
  if terms.isEmpty then 0
  else
    let totalWeight := terms.foldl (fun acc term => acc + term.2) 0
    let weightedSum := terms.foldl (fun acc term => acc + term.1 * term.2) 0
    min 100 (round (weightedSum / totalWeight))

def aggregateSignals (signals : List RiskSignal) : Int :=
  weightedMean (signals.map fun s => (s.score, s.weight))

def aggregateContinuousSignals (signals : List ContinuousRiskSignal) : Int :=
  weightedMean (signals.map fun s => (s.score, s.weight))

inductive RiskLevel where
  | LOW
  | MEDIUM
  | HIGH
  | CRITICAL
  deriving DecidableEq

inductive RiskAction where
  | ALLOW
  | STEP_UP
  | BLOCK
  deriving DecidableEq

structure RealmThresholds where
  riskThresholdStepUp : Int
  riskThresholdBlock : Int
  deriving DecidableEq

def scoreToRiskLevel (score : Int) : RiskLevel :=
  if score ≥ 80 then .CRITICAL
  else if score ≥ 60 then .HIGH
  else if score ≥ 35 then .MEDIUM
  else .LOW

def determineAction (score : Int) (thresholds : RealmThresholds) : RiskAction :=
  if score ≥ thresholds.riskThresholdBlock then .BLOCK
  else if score ≥ thresholds.riskThresholdStepUp then .STEP_UP
  else .ALLOW

structure LoginContext where
  userId : String
  realmId : String
  (ipAddress deviceFingerprint : Option String)
  timestamp : Int
  hour : Nat

/-- What `assessRisk` reads of the stores and of the geographic look-up. -/
structure RiskStore where
  profile : UserLoginProfile
  thresholds : Option RealmThresholds
  lookupLocation : String → Option String
  lookupCoords : String → Option (ℚ × ℚ)
  /-- Address and time of the last assessment that did not block. -/
  lastAssessment : Option (Option String × Int)
  recentFailures : Nat
  recentLogins : Nat

structure RiskAssessmentResult where
  riskScore : Int
  riskLevel : RiskLevel
  signals : List RiskSignal
  action : RiskAction
  geoLocation : Option String

def getLastSuccessfulLoginCoords (s : RiskStore) : Option ((ℚ × ℚ) × Int) := do
  let (ipAddress, createdAt) ← s.lastAssessment
  let ipAddress ← ipAddress.filter (· ≠ "")
  let coords ← s.lookupCoords ipAddress
  some (coords, createdAt)

def thresholdsOf (s : RiskStore) : RealmThresholds :=
  s.thresholds.getD ⟨50, 80⟩

def assessRisk (language : Language) (s : RiskStore) (ctx : LoginContext) :
    RiskAssessmentResult :=
  let ipAddress := ctx.ipAddress.filter (· ≠ "")
  let geoLocation := ipAddress.bind s.lookupLocation
  let currentCoords := ipAddress.bind s.lookupCoords
  let lastLogin := getLastSuccessfulLoginCoords s
  let signals := [evaluateIpReputation ctx.ipAddress s.profile.knownIps,
    evaluateGeoAnomaly language geoLocation s.profile.lastLocations,
    evaluateImpossibleTravel language (lastLogin.map (·.1)) (lastLogin.map (·.2)) currentCoords
      ctx.timestamp,
    evaluateTimeAnomaly ctx.hour s.profile.loginTimes,
    evaluateDeviceAnomaly ctx.deviceFingerprint s.profile.knownDevices,
    evaluateLoginFrequency language s.recentLogins s.profile.avgLoginFrequency,
    evaluateFailedAttempts s.recentFailures]
  let riskScore := aggregateSignals signals
  { riskScore := riskScore
    riskLevel := scoreToRiskLevel riskScore
    signals := signals
    action := determineAction riskScore (thresholdsOf s)
    geoLocation := geoLocation }

structure Evidence where
  /-- The session has a posture record. -/
  (record isTrusted nonCompliant isRisky behaviourAnomalous travelAnomalous : Bool)
  distanceKm : String
  deriving DecidableEq

def devicePostureSignal (e : Evidence) : ContinuousRiskSignal where
  name := "device_posture"
  score := if e.nonCompliant then 25 else if e.isTrusted then 0 else 5
  weight := 3 / 2
  reason :=
    if e.nonCompliant then "Device is non-compliant or jailbroken"
    else if e.isTrusted then "Device is trusted"
    else "Device posture unknown"
  triggered := e.nonCompliant

def networkContextSignal : ContinuousRiskSignal where
  name := "network_context"
  score := 30
  weight := 5 / 4
  reason := "Suspicious network context detected"
  triggered := true

def behavioralSignal : ContinuousRiskSignal where
  name := "behavioral_biometrics"
  score := 20
  weight := 5 / 4
  reason := "Behavioral patterns deviate from baseline"
  triggered := true

def travelSignal (e : Evidence) : ContinuousRiskSignal where
  name := "impossible_travel"
  score := 40
  weight := 2
  reason := "Impossible travel detected: " ++ e.distanceKm ++ " km at abnormal speed"
  triggered := true

def baselineSignal : ContinuousRiskSignal where
  name := "baseline_monitor"
  score := 0
  weight := 1
  reason := "All signals within normal parameters"
  triggered := false

def evaluateAllSignals (e : Evidence) : List ContinuousRiskSignal :=
  let signals :=
    (if e.record then [devicePostureSignal e] else []) ++
    (if e.isRisky then [networkContextSignal] else []) ++
    (if e.behaviourAnomalous then [behavioralSignal] else []) ++
    (if e.travelAnomalous then [travelSignal e] else [])
  if signals.isEmpty then [baselineSignal] else signals

inductive ContinuousRiskAction where
  | MONITOR
  | ALERT
  | STEP_UP
  | TERMINATE
  deriving DecidableEq

structure ContinuousRiskThresholds where
  (alertThreshold stepUpThreshold blockThreshold : Int)
  deriving DecidableEq

def determineContinuousAction (score : Int) (thresholds : ContinuousRiskThresholds) :
    ContinuousRiskAction :=
  if score ≥ thresholds.blockThreshold then .TERMINATE
  else if score ≥ thresholds.stepUpThreshold then .STEP_UP
  else if score ≥ thresholds.alertThreshold then .ALERT
  else .MONITOR

def sessionScore (e : Evidence) : Int := aggregateContinuousSignals (evaluateAllSignals e)

end Idenplane.Risk
