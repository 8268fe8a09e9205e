import Idenplane.Risk.Signals

/-! # How far a risk score can go

The mean of a login is taken over the same seven signals with the same weights, so that it
grows with every signal, but never beyond 27.  The mean of a session is taken over the signals
that were triggered, so that one more can pull it down.
-/

namespace Idenplane.Risk

open List

theorem round_mono {first second : ℚ} (le : first ≤ second) : round first ≤ round second :=
  Int.floor_mono (by linarith)

def NotLower (first second : ℚ × ℚ) : Prop := first.2 = second.2 ∧ first.1 ≤ second.1

variable {first snd : List (ℚ × ℚ)}

theorem foldl_weights (rises : Forall₂ NotLower first snd)
    (acc : ℚ) : first.foldl (fun acc term => acc + term.2) acc =
      snd.foldl (fun acc term => acc + term.2) acc := by
  induction rises generalizing acc with
  | nil => rfl
  | cons rise _ ih => rw [foldl_cons, foldl_cons, rise.1, ih]

theorem foldl_products (rises : Forall₂ NotLower first snd)
    (positive : ∀ term ∈ first, 0 ≤ term.2) {low high : ℚ} (le : low ≤ high) :
    first.foldl (fun acc term => acc + term.1 * term.2) low ≤
      snd.foldl (fun acc term => acc + term.1 * term.2) high := by
  induction rises generalizing low high with
  | nil => exact le
  | @cons one two _ _ rise _ ih =>
    rw [foldl_cons, foldl_cons]
    apply ih fun term later => positive term (.tail _ later)
    rw [← rise.1]
    have product := mul_le_mul_of_nonneg_right rise.2 (positive one mem_cons_self)
    linarith

theorem foldl_weights_nonneg {terms : List (ℚ × ℚ)} (positive : ∀ term ∈ terms, 0 ≤ term.2)
    {acc : ℚ} (start : 0 ≤ acc) : 0 ≤ terms.foldl (fun acc term => acc + term.2) acc := by
  induction terms generalizing acc with
  | nil => exact start
  | cons term rest ih =>
    apply ih fun other later => positive other (.tail _ later)
    have := positive term mem_cons_self
    linarith

/-- Higher scores with the same weights have no lower mean. -/
theorem weightedMean_mono {first second : List (ℚ × ℚ)}
    (rises : Forall₂ NotLower first second) (positive : ∀ term ∈ first, 0 ≤ term.2) :
    weightedMean first ≤ weightedMean second := by
  cases rises with
  | nil => exact le_rfl
  | cons rise rest =>
    apply min_le_min_left
    apply round_mono
    rw [← foldl_weights (.cons rise rest)]
    apply div_le_div_of_nonneg_right
    · exact foldl_products (.cons rise rest) positive le_rfl
    · exact foldl_weights_nonneg positive le_rfl

def Stronger (s s' : RiskSignal) : Prop :=
  s.triggered = false ∧ s'.triggered = true ∨ s.score ≤ s'.score

/-- What the evaluators have in common: the weight is fixed, the score lies between 0 and its
maximum, and a signal that is not triggered has none. -/
structure Bounded (weight maximum : ℚ) (s : RiskSignal) : Prop where
  weight_eq : s.weight = weight
  nonneg : 0 ≤ s.score
  le : s.score ≤ maximum
  off : s.triggered = false → s.score = 0

variable {name reason : String} {weight maximum : ℚ}

theorem bounded_ite (positive : 0 ≤ maximum) (triggered : Bool) :
    Bounded weight maximum ⟨name, if triggered then maximum else 0, weight, reason, triggered⟩ := by
  cases triggered with
  | true => exact ⟨rfl, positive, le_rfl, fun off => by cases off⟩
  | false => exact ⟨rfl, le_rfl, positive, fun _ => rfl⟩

theorem bounded_zero (positive : 0 ≤ maximum) :
    Bounded weight maximum ⟨name, 0, weight, reason, false⟩ :=
  ⟨rfl, le_rfl, positive, fun _ => rfl⟩

theorem ipReputation_bounded (ip : Option String) (knownIps : List String) :
    Bounded 1 20 (evaluateIpReputation ip knownIps) :=
  bounded_ite (by norm_num) _

theorem deviceAnomaly_bounded (fingerprint : Option String) (knownDevices : List String) :
    Bounded 1 20 (evaluateDeviceAnomaly fingerprint knownDevices) :=
  bounded_ite (by norm_num) _

section Evaluators

variable (language : Language)

theorem geoAnomaly_bounded (location : Option String) (lastLocations : List String) :
    Bounded (3 / 2) 30 (evaluateGeoAnomaly language location lastLocations) := by
  unfold evaluateGeoAnomaly
  split
  · exact bounded_zero (by norm_num)
  · exact bounded_zero (by norm_num)
  · exact bounded_ite (by norm_num) _

theorem impossibleTravel_bounded (previousLatLon : Option (ℚ × ℚ)) (previousTimestamp : Option Int)
    (currentLatLon : Option (ℚ × ℚ)) (currentTimestamp : Int) :
    Bounded 2 40 (evaluateImpossibleTravel language previousLatLon previousTimestamp currentLatLon
      currentTimestamp) := by
  unfold evaluateImpossibleTravel
  split
  · dsimp only
    split
    · exact bounded_zero (by norm_num)
    · exact bounded_ite (by norm_num) _
  · exact bounded_zero (by norm_num)

theorem timeAnomaly_bounded (hourOfDay : Nat) (loginTimes : List Nat) :
    Bounded (3 / 4) 15 (evaluateTimeAnomaly hourOfDay loginTimes) := by
  unfold evaluateTimeAnomaly
  dsimp only
  split
  · exact bounded_zero (by norm_num)
  · exact bounded_ite (by norm_num) _

theorem loginFrequency_bounded (recentLogins : Nat) (avgLoginFrequency : ℚ) :
    Bounded (3 / 4) 15 (evaluateLoginFrequency language recentLogins avgLoginFrequency) :=
  bounded_ite (by norm_num) _

theorem failedAttempts_bounded (recentFailures : Nat) :
    Bounded 1 30 (evaluateFailedAttempts recentFailures) := by
  refine { weight_eq := rfl, nonneg := ?_, le := ?_, off := ?_ }
  · unfold evaluateFailedAttempts
    split_ifs <;> norm_num
  · unfold evaluateFailedAttempts
    split_ifs <;> norm_num
  · intro off
    have none_ : recentFailures = 0 := by simpa [evaluateFailedAttempts] using off
    rw [none_]
    rfl

/-- The weights of the seven signals, and how high each can get. -/
def bounds : List (ℚ × ℚ) :=
  [(1, 20), (3 / 2, 30), (2, 40), (3 / 4, 15), (1, 20), (3 / 4, 15), (1, 30)]

theorem assessRisk_bounded (store : RiskStore) (ctx : LoginContext) :
    Forall₂ (fun bound s => Bounded bound.1 bound.2 s) bounds
      (assessRisk language store ctx).signals :=
  .cons (ipReputation_bounded ..) <| .cons (geoAnomaly_bounded ..) <|
    .cons (impossibleTravel_bounded ..) <| .cons (timeAnomaly_bounded ..) <|
    .cons (deviceAnomaly_bounded ..) <| .cons (loginFrequency_bounded ..) <|
    .cons (failedAttempts_bounded _) .nil

end Evaluators

def term (s : RiskSignal) : ℚ × ℚ := (s.score, s.weight)

theorem notLower_of_stronger {bounds : List (ℚ × ℚ)} {signals signals' : List RiskSignal}
    (bounded : Forall₂ (fun bound s => Bounded bound.1 bound.2 s) bounds signals)
    (bounded' : Forall₂ (fun bound s => Bounded bound.1 bound.2 s) bounds signals')
    (stronger : Forall₂ Stronger signals signals') :
    Forall₂ NotLower (signals.map term) (signals'.map term) := by
  induction bounded generalizing signals' with
  | nil =>
    cases stronger
    exact .nil
  | cons first _ ih =>
    cases bounded' with
    | cons first' rest' =>
      cases stronger with
      | cons one os =>
        apply Forall₂.cons _ (ih rest' os)
        constructor
        · exact first.weight_eq.trans first'.weight_eq.symm
        · cases one with
          | inl turned => exact (first.off turned.1).le.trans first'.nonneg
          | inr higher => exact higher

theorem weights_nonneg {language : Language} (s : RiskStore) (ctx : LoginContext) :
    ∀ one ∈ (assessRisk language s ctx).signals.map term, 0 ≤ one.2 := by
  have bounded := assessRisk_bounded language s ctx
  have weights : ∀ bound ∈ bounds, 0 ≤ bound.1 := by decide +kernel
  generalize (assessRisk language s ctx).signals = signals at bounded
  generalize bounds = bounds at bounded weights
  induction bounded with
  | nil =>
    intro one mem
    cases mem
  | cons first _ ih =>
    intro one mem
    cases mem_cons.mp mem with
    | inl isFirst =>
      rw [isFirst, term, first.weight_eq]
      exact weights _ mem_cons_self
    | inr later => exact ih (fun bound inside => weights bound (.tail _ inside)) one later

def RiskAction.rank : RiskAction → Nat
  | ALLOW => 0
  | STEP_UP => 1
  | BLOCK => 2

theorem determineAction_mono {low high : Int} (le : low ≤ high) (thresholds : RealmThresholds) :
    (determineAction low thresholds).rank ≤ (determineAction high thresholds).rank := by
  unfold determineAction
  split_ifs <;> first | omega | simp [RiskAction.rank]

/-- A login with stronger signals has no lower score and no weaker action. -/
theorem assessRisk_mono {language : Language} {s s' : RiskStore}
    {ctx ctx' : LoginContext} (same : thresholdsOf s = thresholdsOf s')
    (stronger : Forall₂ Stronger (assessRisk language s ctx).signals
      (assessRisk language s' ctx').signals) :
    (assessRisk language s ctx).riskScore ≤ (assessRisk language s' ctx').riskScore ∧
      (assessRisk language s ctx).action.rank ≤ (assessRisk language s' ctx').action.rank := by
  have le : (assessRisk language s ctx).riskScore ≤ (assessRisk language s' ctx').riskScore :=
    weightedMean_mono (notLower_of_stronger (assessRisk_bounded language s ctx)
      (assessRisk_bounded language s' ctx') stronger) (weights_nonneg s ctx)
  constructor
  · exact le
  · calc (assessRisk language s ctx).action.rank
        ≤ (determineAction (assessRisk language s' ctx').riskScore (thresholdsOf s)).rank :=
          determineAction_mono le (thresholdsOf s)
      _ = (assessRisk language s' ctx').action.rank := by rw [same]; rfl

def AtMaximum (signals : List RiskSignal) : Prop := signals.map (·.score) = bounds.map (·.2)

theorem maximum_mean : weightedMean (bounds.map fun bound => (bound.2, bound.1)) = 27 := by
  decide +kernel

theorem assessRisk_atMaximum {language : Language} {s : RiskStore} {ctx : LoginContext}
    (atMaximum : AtMaximum (assessRisk language s ctx).signals) :
    (assessRisk language s ctx).riskScore = 27 := by
  rw [← maximum_mean]
  change weightedMean ((assessRisk language s ctx).signals.map term) = _
  congr 1
  have bounded := assessRisk_bounded language s ctx
  unfold AtMaximum at atMaximum
  generalize (assessRisk language s ctx).signals = signals at bounded atMaximum
  generalize bounds = bounds at bounded atMaximum
  induction bounded with
  | nil => rfl
  | cons first _ ih =>
    rw [map_cons, map_cons, cons.injEq] at atMaximum
    rw [map_cons, map_cons, ih atMaximum.2, term, first.weight_eq, atMaximum.1]

def boldStore (thresholds : RealmThresholds) : RiskStore where
  profile :=
    { knownIps := []
      knownDevices := []
      loginTimes := [10, 0]
      lastLocations := ["italy"]
      avgLoginFrequency := 0 }
  thresholds := some thresholds
  lookupLocation _ := some "peru"
  lookupCoords ip := if ip = "home" then some (0, 0) else some (0, 180)
  lastAssessment := some (some "home", 0)
  recentFailures := 5
  recentLogins := 6

def boldLogin : LoginContext where
  userId := "alice"
  realmId := "acme"
  ipAddress := some "away"
  deviceFingerprint := some "phone"
  timestamp := 3600000
  hour := 1

theorem bold_distance (language : Language) :
    haversineDistance language (0, 0) (0, 180) = 6371 * language.pi := by
  have quarter : toRad language 180 / 2 = language.pi / 2 := by
    unfold toRad
    ring
  have half : toRad language 0 = 0 := by
    unfold toRad
    ring
  simp only [haversineDistance, sub_zero, sub_self, half, quarter, zero_div, language.sin_zero,
    language.cos_zero, language.sin_half_pi, mul_one, mul_zero, zero_add, language.sqrt_one,
    language.sqrt_zero, language.atan2_up]
  ring

theorem bold_country (language : Language) :
    (evaluateGeoAnomaly language (some "peru") ["italy"]).score = 30 := by
  have peru : countryOf language "peru" = "peru" := language.toLowerCase_lower "peru" (by decide)
  have italy : countryOf language "italy" = "italy" := language.toLowerCase_lower "italy" (by decide)
  simp [evaluateGeoAnomaly, Option.filter, peru, italy]

theorem bold_travel (language : Language) :
    (evaluateImpossibleTravel language (some (0, 0)) (some 0) (some (0, 180)) 3600000).score = 40 := by
  have far := language.three_lt_pi
  have anHour : ((3600000 - 0 : Int) : ℚ) / (1000 * 60 * 60) = 1 := by norm_num
  simp only [evaluateImpossibleTravel, bold_distance, anHour]
  rw [if_neg (by norm_num), if_pos]
  apply decide_eq_true
  linarith

theorem bold_frequency (language : Language) : (evaluateLoginFrequency language 6 0).score = 15 := by
  have above : (6 : ℚ) > max (0 * 3) 5 := by norm_num
  exact if_pos (decide_eq_true above)

theorem bold_atMaximum (language : Language) (thresholds : RealmThresholds) :
    AtMaximum (assessRisk language (boldStore thresholds) boldLogin).signals := by
  change [(evaluateIpReputation (some "away") []).score,
    (evaluateGeoAnomaly language (some "peru") ["italy"]).score,
    (evaluateImpossibleTravel language (some (0, 0)) (some 0) (some (0, 180)) 3600000).score,
    (evaluateTimeAnomaly 1 [10, 0]).score, (evaluateDeviceAnomaly (some "phone") []).score,
    (evaluateLoginFrequency language 6 0).score, (evaluateFailedAttempts 5).score] = _
  rw [bold_country, bold_travel, bold_frequency]
  decide +kernel

/-- Some login is not simply let in, and one at the maximum of every signal is blocked. -/
def Effective (language : Language) (thresholds : RealmThresholds) : Prop :=
  (∃ s ctx, thresholdsOf s = thresholds ∧ (assessRisk language s ctx).action ≠ .ALLOW) ∧
    ∀ s ctx, thresholdsOf s = thresholds → AtMaximum (assessRisk language s ctx).signals →
      (assessRisk language s ctx).action = .BLOCK

theorem effective_iff (language : Language) (thresholds : RealmThresholds) :
    Effective language thresholds ↔ thresholds.riskThresholdBlock ≤ 27 := by
  have blocked (s : RiskStore) (ctx : LoginContext) (same : thresholdsOf s = thresholds)
      (atMaximum : AtMaximum (assessRisk language s ctx).signals) :
      (assessRisk language s ctx).action = .BLOCK ↔ thresholds.riskThresholdBlock ≤ 27 := by
    change determineAction (assessRisk language s ctx).riskScore (thresholdsOf s) = _ ↔ _
    rw [assessRisk_atMaximum atMaximum, same, determineAction]
    split_ifs with block stepUp
    · simp [block]
    · simp [block]
    · simp [block]
  have maximum := bold_atMaximum language thresholds
  constructor
  · intro effective
    exact (blocked _ _ rfl maximum).mp (effective.2 _ _ rfl maximum)
  · intro low
    constructor
    · refine ⟨boldStore thresholds, boldLogin, rfl, ?_⟩
      rw [(blocked _ _ rfl maximum).mpr low]
      decide
    · intro s ctx same atMaximum
      exact (blocked s ctx same atMaximum).mpr low

/-- One more signal has come to be triggered, or the posture of the device has got worse. -/
inductive Turned (e : Evidence) : Evidence → Prop where
  | device : (e.record && e.nonCompliant) = false →
      Turned e { e with record := true, nonCompliant := true }
  | distrust : e.isTrusted = true → Turned e { e with isTrusted := false }
  | network : e.isRisky = false → Turned e { e with isRisky := true }
  | behaviour : e.behaviourAnomalous = false → Turned e { e with behaviourAnomalous := true }
  | travel (distanceKm : String) : e.travelAnomalous = false →
      Turned e { e with travelAnomalous := true, distanceKm := distanceKm }

/-- The signal that is new in `e'` does not join stronger ones. -/
structure JoinsNoStronger (e e' : Evidence) : Prop where
  /-- A device that is reported for the first time joins no travel, and the network only beside
  the behaviour. -/
  device : e.record = false → e'.record = true →
    e.travelAnomalous = false ∧ (e.isRisky = true → e.behaviourAnomalous = true)
  /-- The network joins a travel only beside the behaviour, or with a device in order. -/
  network : e.isRisky = false → e'.isRisky = true → e.travelAnomalous = true →
    e.behaviourAnomalous = true ∨ (e.record = true ∧ e.nonCompliant = false)
  /-- The behaviour joins a device in order, and that with or without the network, or nothing. -/
  behaviour : e.behaviourAnomalous = false → e'.behaviourAnomalous = true →
    e.travelAnomalous = false ∧ (e.record = true → e.nonCompliant = false) ∧
      (e.isRisky = true → e.record = true)

def ContinuousRiskAction.rank : ContinuousRiskAction → Nat
  | MONITOR => 0
  | ALERT => 1
  | STEP_UP => 2
  | TERMINATE => 3

theorem determineContinuousAction_mono {low high : Int} (le : low ≤ high)
    (thresholds : ContinuousRiskThresholds) : (determineContinuousAction low thresholds).rank ≤
      (determineContinuousAction high thresholds).rank := by
  unfold determineContinuousAction
  split_ifs <;> first | omega | simp [ContinuousRiskAction.rank]

def sessionTerms (record isTrusted nonCompliant isRisky behaviour travel : Bool) : List (ℚ × ℚ) :=
  let terms :=
    (if record then [(if nonCompliant then 25 else if isTrusted then 0 else 5, 3 / 2)] else []) ++
    (if isRisky then [(30, 5 / 4)] else []) ++
    (if behaviour then [(20, 5 / 4)] else []) ++
    (if travel then [(40, 2)] else [])
  if terms.isEmpty then [(0, 1)] else terms

theorem sessionScore_eq (e : Evidence) :
    sessionScore e = weightedMean (sessionTerms e.record e.isTrusted e.nonCompliant e.isRisky
      e.behaviourAnomalous e.travelAnomalous) := by
  obtain ⟨record, isTrusted, nonCompliant, isRisky, behaviour, travel, distanceKm⟩ := e
  cases record <;> cases isRisky <;> cases behaviour <;> cases travel <;> rfl

theorem device_joins : ∀ record isTrusted nonCompliant isRisky behaviour travel : Bool,
    (record && nonCompliant) = false →
    (weightedMean (sessionTerms record isTrusted nonCompliant isRisky behaviour travel) ≤
        weightedMean (sessionTerms true isTrusted true isRisky behaviour travel) ↔
      (record = false → travel = false ∧ (isRisky = true → behaviour = true))) := by
  decide +kernel

theorem distrust_joins : ∀ record nonCompliant isRisky behaviour travel : Bool,
    weightedMean (sessionTerms record true nonCompliant isRisky behaviour travel) ≤
      weightedMean (sessionTerms record false nonCompliant isRisky behaviour travel) := by
  decide +kernel

theorem network_joins : ∀ record isTrusted nonCompliant behaviour travel : Bool,
    (weightedMean (sessionTerms record isTrusted nonCompliant false behaviour travel) ≤
        weightedMean (sessionTerms record isTrusted nonCompliant true behaviour travel) ↔
      (travel = true → behaviour = true ∨ (record = true ∧ nonCompliant = false))) := by
  decide +kernel

theorem behaviour_joins : ∀ record isTrusted nonCompliant isRisky travel : Bool,
    (weightedMean (sessionTerms record isTrusted nonCompliant isRisky false travel) ≤
        weightedMean (sessionTerms record isTrusted nonCompliant isRisky true travel) ↔
      travel = false ∧ (record = true → nonCompliant = false) ∧ (isRisky = true → record = true)) := by
  decide +kernel

theorem travel_joins : ∀ record isTrusted nonCompliant isRisky behaviour : Bool,
    weightedMean (sessionTerms record isTrusted nonCompliant isRisky behaviour false) ≤
      weightedMean (sessionTerms record isTrusted nonCompliant isRisky behaviour true) := by
  decide +kernel

theorem off_on {b : Bool} {p : Prop} (off : b = false) (on : b = true) : p := by
  cases off.symm.trans on

/-- One more signal leaves the score of a session no lower just when it joins none that
outweighs it. -/
theorem sessionScore_le_iff {e e' : Evidence} (turned : Turned e e') :
    sessionScore e ≤ sessionScore e' ↔ JoinsNoStronger e e' := by
  rw [sessionScore_eq, sessionScore_eq]
  cases turned with
  | device inOrder =>
    apply (device_joins _ _ _ _ _ _ inOrder).trans
    constructor
    · intro joins
      exact ⟨fun absent _ => joins absent, fun off on => off_on off on, fun off on => off_on off on⟩
    · intro joins absent
      exact joins.device absent rfl
  | distrust trusted =>
    rw [trusted]
    constructor
    · intro _
      exact ⟨fun off on => off_on off on, fun off on => off_on off on, fun off on => off_on off on⟩
    · intro _
      exact distrust_joins _ _ _ _ _
  | network quiet =>
    rw [quiet]
    apply (network_joins _ _ _ _ _).trans
    constructor
    · intro joins
      exact ⟨fun off on => off_on off on, fun _ _ => joins, fun off on => off_on off on⟩
    · intro joins
      exact joins.network quiet rfl
  | behaviour quiet =>
    rw [quiet]
    apply (behaviour_joins _ _ _ _ _).trans
    constructor
    · intro joins
      exact ⟨fun off on => off_on off on, fun off on => off_on off on, fun _ _ => joins⟩
    · intro joins
      exact joins.behaviour quiet rfl
  | travel distanceKm quiet =>
    rw [quiet]
    constructor
    · intro _
      exact ⟨fun off on => off_on off on, fun off on => off_on off on, fun off on => off_on off on⟩
    · intro _
      exact travel_joins _ _ _ _ _

/-- A login's score grows with its signals; a session's does just when the new signal joins none
that outweighs it; and the thresholds of a realm have an effect just when blocking starts at 27 or
below, where the scores of logins end.  The action of a session is that of its aggregated score;
what the policies of the realm then add to the score (`evaluatePolicyAdjustments`) is not in it. -/
theorem risk_scoring (language : Language) : (∀ s s' ctx ctx', thresholdsOf s = thresholdsOf s' →
      List.Forall₂ Stronger (assessRisk language s ctx).signals
        (assessRisk language s' ctx').signals →
      (assessRisk language s ctx).riskScore ≤ (assessRisk language s' ctx').riskScore ∧
        (assessRisk language s ctx).action.rank ≤
          (assessRisk language s' ctx').action.rank) ∧ (∀ e e', Turned e e' →
      ((sessionScore e ≤ sessionScore e' ∧ ∀ thresholds,
          (determineContinuousAction (sessionScore e) thresholds).rank ≤
            (determineContinuousAction (sessionScore e') thresholds).rank) ↔
        JoinsNoStronger e e')) ∧
    ∀ thresholds : RealmThresholds,
      Effective language thresholds ↔ thresholds.riskThresholdBlock ≤ 27 := by
  refine ⟨?_, ?_, effective_iff language⟩
  · intro s s' ctx ctx' same stronger
    exact assessRisk_mono same stronger
  · intro e e' turned
    rw [← sessionScore_le_iff turned]
    constructor
    · exact fun mono => mono.1
    · exact fun le => ⟨le, determineContinuousAction_mono le⟩

def plainLanguage : Language where
  pi := 22 / 7
  sin x := if x = 0 then 0 else 1
  cos _ := 1
  sqrt x := x
  atan2 _ _ := 11 / 7
  toLowerCase := id
  text _ := ""
  toFixed _ _ := ""
  three_lt_pi := by norm_num
  sin_zero := rfl
  cos_zero := rfl
  sin_half_pi := by norm_num
  sqrt_zero := rfl
  sqrt_one := rfl
  atan2_up := by norm_num
  toLowerCase_lower _ _ := rfl

def traveller : Evidence := ⟨false, false, false, false, false, true, "9000"⟩

def anomalousTraveller : Evidence := { traveller with behaviourAnomalous := true }

def anomalousUser : Evidence := { anomalousTraveller with travelAnomalous := false }

theorem risk_scoring_low_thresholds :
    Effective plainLanguage ⟨10, 25⟩ ∧ sessionScore anomalousUser ≤ sessionScore anomalousTraveller := by
  obtain ⟨-, sessions, thresholds⟩ := risk_scoring plainLanguage
  constructor
  · exact (thresholds ⟨10, 25⟩).mpr (by decide)
  · have turned : Turned anomalousUser anomalousTraveller := .travel "9000" rfl
    have joins : JoinsNoStronger anomalousUser anomalousTraveller :=
      ⟨fun _ on => off_on rfl on, fun _ on => off_on rfl on, fun off _ => off_on off rfl⟩
    exact ((sessions _ _ turned).mpr joins).1

/-- The default thresholds are out of reach, and a traveller whose behaviour stands out as well
has a lower score. -/
theorem evidence_lowers_score : ¬Effective plainLanguage ⟨50, 80⟩ ∧
      Turned traveller anomalousTraveller ∧ sessionScore traveller = 40 ∧
      sessionScore anomalousTraveller = 32 := by
  refine ⟨?_, .behaviour rfl, by decide +kernel, by decide +kernel⟩
  intro effective
  have low := (effective_iff plainLanguage ⟨50, 80⟩).mp effective
  revert low
  decide

end Idenplane.Risk
