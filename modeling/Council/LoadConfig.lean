import Council.GoStrings
import Mathlib.Algebra.Order.Ring.Rat

/-!
`config.Load` (`internal/config/config.go`): the environment, read and checked
one variable after the other. The parsers of `strconv` and `time` are
parameters, but for what `ParseFloat` makes of the spellings of NaN and the
infinities; a variable that is unset reads as the empty string.
-/

namespace Council.LoadConfig

open Council.GoStrings

/-- A `float64`; rounding is left to the parser. -/
inductive Float64 where
  | nan
  | negInf
  | posInf
  | finite (value : Rat)
  deriving DecidableEq, Repr

/-- The comparison `value <= 0`, false of NaN. -/
def Float64.atMostZero : Float64 → Bool
  | .nan => false
  | .negInf => true
  | .posInf => false
  | .finite value => value ≤ 0

structure Config where
  addr : GoString
  allowedOrigins : List GoString
  zaiAPIKey : GoString
  llmModel : GoString
  rateLimitRPS : Float64
  rateLimitBurst : Int
  /-- Durations are in nanoseconds. -/
  rateLimitTTL : Int
  rateLimitSweepEvery : Int
  maxConcurrentSessions : Int
  dailyQuota : Int
  dbPath : GoString
  trustProxy : Bool
  deriving DecidableEq, Repr

/-- `Config{}`. -/
def Config.zero : Config where
  addr := []
  allowedOrigins := []
  zaiAPIKey := []
  llmModel := []
  rateLimitRPS := .finite 0
  rateLimitBurst := 0
  rateLimitTTL := 0
  rateLimitSweepEvery := 0
  maxConcurrentSessions := 0
  dailyQuota := 0
  dbPath := []
  trustProxy := false

/-- What is wrong, with the variable it is about. -/
inductive LoadError where
  | required (key : String)
  | invalid (key kind : String) (value : GoString)
  | bound (key must : String)
  deriving DecidableEq, Repr

/-- `ParseFloat` reads numbers with `readFloat`, which fails on a syntax error
and on a value too large for a `float64`. -/
structure Parsers where
  atoi : GoString → Option Int
  readFloat : GoString → Option Rat
  parseDuration : GoString → Option Int
  parseBool : GoString → Option Bool

def lower (byte : UInt8) : UInt8 :=
  if 0x41 ≤ byte && byte ≤ 0x5A then byte + 0x20 else byte

/-- `commonPrefixLenIgnoreCase`; the prefix is in lower case. -/
def commonPrefixLen : GoString → GoString → Nat
  | byte :: text, letter :: pattern =>
      if lower byte = letter then commonPrefixLen text pattern + 1 else 0
  | _, _ => 0

def plus : UInt8 := 0x2B
def minus : UInt8 := 0x2D

/-- A beginning of "infinity" that is not the whole word counts as "inf". -/
def nameLength (n : Nat) : Nat := if 3 < n ∧ n < 8 then 3 else n

/-- The infinity after a sign of `nsign` bytes, and how many bytes it takes. -/
def infinity (value : Float64) (nsign : Nat) (text : GoString) : Option (Float64 × Nat) :=
  let n := nameLength (commonPrefixLen text (literal "infinity"))
  if n = 3 ∨ n = 8 then some (value, nsign + n) else none

/-- `special` of `strconv`. -/
def special (text : GoString) : Option (Float64 × Nat) :=
  match text with
  | [] => none
  | first :: rest =>
      if first = plus then infinity .posInf 1 rest
      else if first = minus then infinity .negInf 1 rest
      else if lower first = 0x69 then infinity .posInf 0 text
      else if lower first = 0x6E then
        if commonPrefixLen text (literal "nan") = 3 then some (.nan, 3) else none
      else none

def Parsers.parseFloat (parsers : Parsers) (text : GoString) : Option Float64 :=
  match special text with
  | some (value, n) => if n = text.length then some value else none
  | none => (parsers.readFloat text).map .finite

abbrev Env := String → GoString

/-- `envInt`, `envFloat`, `envDuration` and `envBool`, by their parser. -/
def envValue {Value : Type} (kind : String) (parse : GoString → Option Value) (env : Env)
    (key : String) (default : Value) : Except LoadError Value :=
  let v := env key
  if v = [] then .ok default
  else
    match parse v with
    | some value => .ok value
    | none => .error (.invalid key kind v)

def envInt (parsers : Parsers) : Env → String → Int → Except LoadError Int :=
  envValue "integer" parsers.atoi

def envFloat (parsers : Parsers) : Env → String → Float64 → Except LoadError Float64 :=
  envValue "float" parsers.parseFloat

def envDuration (parsers : Parsers) : Env → String → Int → Except LoadError Int :=
  envValue "duration" parsers.parseDuration

def envBool (parsers : Parsers) : Env → String → Bool → Except LoadError Bool :=
  envValue "boolean" parsers.parseBool

def orDefault (value fallback : GoString) : GoString := if value = [] then fallback else value

def parseOrigins (raw : GoString) : List GoString :=
  if raw = [] then [literal "localhost:5173"]
  else ((split 0x2C raw).map trimSpace).filter (· ≠ [])

/-- One variable of `Load`: its error, or the error of its check, ends it. -/
def checked {Value : Type} (answer : Except LoadError Value) (fails : Value → Bool)
    (err : LoadError) (next : Value → Config × Option LoadError) : Config × Option LoadError :=
  match answer with
  | .error invalid => (Config.zero, some invalid)
  | .ok value => if fails value then (Config.zero, some err) else next value

def second : Int := 1000000000
def minute : Int := 60 * second

def load (parsers : Parsers) (env : Env) : Config × Option LoadError :=
  let zKey := env "ZAI_API_KEY"
  if zKey = [] then (Config.zero, some (.required "ZAI_API_KEY"))
  else
    checked (envFloat parsers env "RATE_LIMIT_RPS" (.finite 1)) (·.atMostZero)
      (.bound "RATE_LIMIT_RPS" "> 0") fun rps =>
    checked (envInt parsers env "RATE_LIMIT_BURST" 3) (· < 1)
      (.bound "RATE_LIMIT_BURST" ">= 1") fun burst =>
    checked (envDuration parsers env "RATE_LIMIT_TTL" (10 * minute)) (· ≤ 0)
      (.bound "RATE_LIMIT_TTL" "> 0") fun ttl =>
    checked (envDuration parsers env "RATE_LIMIT_SWEEP" minute) (· ≤ 0)
      (.bound "RATE_LIMIT_SWEEP" "> 0") fun sweep =>
    checked (envInt parsers env "MAX_CONCURRENT_SESSIONS" 6) (· < 1)
      (.bound "MAX_CONCURRENT_SESSIONS" ">= 1") fun maxSessions =>
    checked (envInt parsers env "DAILY_QUOTA" 20) (· < 1)
      (.bound "DAILY_QUOTA" ">= 1") fun quota =>
    checked (envBool parsers env "TRUST_PROXY" false) (fun _ => false)
      (.bound "TRUST_PROXY" "") fun trustProxy =>
    ({
      addr := orDefault (env "BACKEND_ADDR") (literal ":8080")
      allowedOrigins := parseOrigins (env "FRONTEND_ORIGINS")
      zaiAPIKey := zKey
      llmModel := orDefault (env "LLM_MODEL") (literal "glm-4.7")
      rateLimitRPS := rps
      rateLimitBurst := burst
      rateLimitTTL := ttl
      rateLimitSweepEvery := sweep
      maxConcurrentSessions := maxSessions
      dailyQuota := quota
      dbPath := orDefault (env "DB_PATH") (literal "./council.db")
      trustProxy := trustProxy }, none)


/-! The spellings of NaN and the infinities. -/

theorem upper_moved {byte : UInt8} (upper : (0x41 ≤ byte && byte ≤ 0x5A) = true) :
    (byte + 0x20).toNat = byte.toNat + 0x20 ∧ 0x41 ≤ byte.toNat ∧ byte.toNat ≤ 0x5A := by
  simp only [Bool.and_eq_true, decide_eq_true_eq, UInt8.le_iff_toNat_le] at upper
  have bounds : 0x41 ≤ byte.toNat ∧ byte.toNat ≤ 0x5A := upper
  have twenty : (0x20 : UInt8).toNat = 0x20 := rfl
  refine ⟨?_, bounds⟩
  rw [UInt8.toNat_add]
  exact Nat.mod_eq_of_lt (by omega)

theorem lower_lower (byte : UInt8) : lower (lower byte) = lower byte := by
  unfold lower
  split
  next upper =>
    rcases upper_moved upper with ⟨moved, bounds⟩
    apply if_neg
    simp only [Bool.and_eq_true, decide_eq_true_eq, UInt8.le_iff_toNat_le, moved, not_and]
    intro _ small
    have bound : byte.toNat + 0x20 ≤ 0x5A := small
    omega
  · rfl

theorem common_prefix_lower (text pattern : GoString) :
    commonPrefixLen (text.map lower) pattern = commonPrefixLen text pattern := by
  induction text generalizing pattern with
  | nil => rfl
  | cons byte rest ih =>
      cases pattern with
      | nil => rfl
      | cons letter pattern =>
          simp only [List.map_cons, commonPrefixLen, lower_lower, ih]

theorem common_prefix_le (text pattern : GoString) :
    commonPrefixLen text pattern ≤ text.length := by
  induction text generalizing pattern with
  | nil => exact Nat.le_refl 0
  | cons byte rest ih =>
      cases pattern with
      | nil => exact Nat.zero_le _
      | cons letter pattern =>
          unfold commonPrefixLen
          split
          · exact Nat.succ_le_succ (ih pattern)
          · exact Nat.zero_le _

theorem common_prefix_take (text pattern : GoString) :
    (text.map lower).take (commonPrefixLen text pattern) =
      pattern.take (commonPrefixLen text pattern) := by
  induction text generalizing pattern with
  | nil => simp [commonPrefixLen]
  | cons byte rest ih =>
      cases pattern with
      | nil => simp [commonPrefixLen]
      | cons letter pattern =>
          unfold commonPrefixLen
          split
          next same =>
            simp only [List.map_cons, List.take_succ_cons, same]
            rw [ih pattern]
          · rfl

theorem lower_eq_of_common {text pattern : GoString}
    (whole : commonPrefixLen text pattern = text.length) :
    text.map lower = pattern.take text.length := by
  have same := common_prefix_take text pattern
  rw [whole] at same
  rw [← same, List.take_of_length_le (by simp)]

theorem infinity_value {value found : Float64} {nsign n : Nat} {text : GoString}
    (read : infinity value nsign text = some (found, n)) : found = value := by
  unfold infinity at read
  simp only at read
  split at read
  · cases read
    rfl
  · cases read

theorem infinity_whole_iff (value : Float64) (nsign : Nat) (text : GoString) :
    infinity value nsign text = some (value, nsign + text.length) ↔
      text.map lower = literal "inf" ∨ text.map lower = literal "infinity" := by
  have bound := common_prefix_le text (literal "infinity")
  constructor
  · intro read
    unfold infinity at read
    simp only at read
    split at read
    next named =>
      have long : nameLength (commonPrefixLen text (literal "infinity")) = text.length := by
        simpa using read
      have whole : commonPrefixLen text (literal "infinity") = text.length := by
        unfold nameLength at long
        split at long
        · omega
        · exact long
      have spelled := lower_eq_of_common whole
      rw [long] at named
      rcases named with three | eight
      · left
        rw [spelled, three]
        decide
      · right
        rw [spelled, eight]
        decide
    · cases read
  · have length : (text.map lower).length = text.length := List.length_map lower
    rintro (short | full)
    · rw [short] at length
      unfold infinity
      rw [← common_prefix_lower, short, ← length]
      rfl
    · rw [full] at length
      unfold infinity
      rw [← common_prefix_lower, full, ← length]
      rfl

theorem lower_sign_iff {byte sign : UInt8} (small : sign.toNat < 0x41) :
    lower byte = sign ↔ byte = sign := by
  unfold lower
  split
  next upper =>
    rcases upper_moved upper with ⟨moved, bounds⟩
    constructor
    · rintro rfl
      omega
    · rintro rfl
      omega
  · exact Iff.rfl

theorem special_lower (text : GoString) : special (text.map lower) = special text := by
  cases text with
  | nil => rfl
  | cons first rest =>
      have signs : (lower first = plus ↔ first = plus) ∧ (lower first = minus ↔ first = minus) :=
        ⟨lower_sign_iff (by decide), lower_sign_iff (by decide)⟩
      have tail := common_prefix_lower rest
      have whole := common_prefix_lower (first :: rest)
      simp only [List.map_cons] at whole
      simp only [List.map_cons, special, infinity, signs.1, signs.2, lower_lower, tail, whole]

/-- The texts `ParseFloat` reads as NaN or as the positive infinity, in any
mixture of cases. -/
def unlimitedNames : List GoString :=
  [literal "nan", literal "inf", literal "infinity", literal "+inf", literal "+infinity"]

def Unlimited (text : GoString) : Prop := text.map lower ∈ unlimitedNames

instance (text : GoString) : Decidable (Unlimited text) :=
  inferInstanceAs (Decidable (_ ∈ _))

theorem special_unlimited {text : GoString} {value : Float64}
    (read : special text = some (value, text.length)) (not_low : value ≠ .negInf) :
    Unlimited text := by
  cases text with
  | nil => cases read
  | cons first rest =>
      unfold special at read
      simp only at read
      split at read
      next sign =>
        cases infinity_value read
        rw [List.length_cons, Nat.add_comm] at read
        rcases (infinity_whole_iff _ _ _).mp read with short | full
        · simp [Unlimited, unlimitedNames, short, sign, (by decide : lower plus = plus),
            (by decide : literal "+inf" = plus :: literal "inf")]
        · simp [Unlimited, unlimitedNames, full, sign, (by decide : lower plus = plus),
            (by decide : literal "+infinity" = plus :: literal "infinity")]
      split at read
      · exact absurd (infinity_value read) not_low
      split at read
      · cases infinity_value read
        rw [← Nat.zero_add (first :: rest).length] at read
        rcases (infinity_whole_iff _ _ _).mp read with short | full
        · simp [Unlimited, unlimitedNames, short]
        · simp [Unlimited, unlimitedNames, full]
      split at read
      · split at read
        next named =>
          have length : 3 = (first :: rest).length := by simpa using congrArg (·.map Prod.snd) read
          have spelled := lower_eq_of_common (named.trans length)
          rw [← length] at spelled
          have name : (literal "nan").take 3 = literal "nan" := by decide
          simp [Unlimited, unlimitedNames, spelled, name]
        · cases read
      · cases read

theorem unlimited_special {text : GoString} (named : Unlimited text) :
    ∃ value, special text = some (value, text.length) ∧ (value = .nan ∨ value = .posInf) := by
  have length : (text.map lower).length = text.length := List.length_map lower
  rw [← special_lower text, ← length]
  simp only [Unlimited, unlimitedNames, List.mem_cons, List.not_mem_nil, or_false] at named
  rcases named with name | name | name | name | name
  · exact ⟨.nan, by rw [name]; decide, .inl rfl⟩
  all_goals exact ⟨.posInf, by rw [name]; decide, .inr rfl⟩

theorem parse_float_unlimited_iff (parsers : Parsers) (text : GoString) :
    (parsers.parseFloat text = some .nan ∨ parsers.parseFloat text = some .posInf) ↔
      Unlimited text := by
  constructor
  · intro read
    unfold Parsers.parseFloat at read
    split at read
    next value n found =>
      split at read
      next whole =>
        rw [whole] at found
        apply special_unlimited found
        rintro rfl
        simp at read
      · simp at read
    · simp at read
  · intro named
    rcases unlimited_special named with ⟨value, found, either⟩
    unfold Parsers.parseFloat
    rw [found]
    simp only [if_true, Option.some.injEq]
    exact either

/-! The variables of `Load`, one by one. -/

/-- A variable that is set, but not to a value within its bounds. -/
def Bad {Value : Type} (parse : GoString → Option Value) (env : Env) (key : String)
    (bound : Value → Prop) : Prop :=
  env key ≠ [] ∧ ∀ value, parse (env key) = some value → ¬ bound value

/-- A default within the bounds stands for the variable where it is not set. -/
theorem env_value_fine_iff {Value : Type} {kind : String} {parse : GoString → Option Value}
    {env : Env} {key : String} {default : Value} {bound : Value → Prop}
    (fine : bound default) :
    (∃ value, envValue kind parse env key default = .ok value ∧ bound value) ↔
      ¬ Bad parse env key bound := by
  unfold envValue Bad
  by_cases unset : env key = []
  · simp [unset, fine]
  · cases read : parse (env key) with
    | none => simp [unset, read]
    | some value => simp [unset, read]

theorem checked_none_iff {Value : Type} {answer : Except LoadError Value}
    {fails : Value → Bool} {err : LoadError} {next : Value → Config × Option LoadError} :
    (checked answer fails err next).2 = none ↔
      ∃ value, answer = .ok value ∧ fails value = false ∧ (next value).2 = none ∧
        checked answer fails err next = next value := by
  unfold checked
  cases answer with
  | error invalid => simp
  | ok value =>
      cases failed : fails value <;> simp [failed]

theorem checked_zero {Value : Type} {answer : Except LoadError Value} {fails : Value → Bool}
    {err : LoadError} {next : Value → Config × Option LoadError}
    (later : ∀ value, (next value).2 ≠ none → (next value).1 = Config.zero)
    (failed : (checked answer fails err next).2 ≠ none) :
    (checked answer fails err next).1 = Config.zero := by
  unfold checked at failed ⊢
  cases answer with
  | error invalid => rfl
  | ok value =>
      simp only at failed ⊢
      split
      · rfl
      next passes =>
        rw [if_neg passes] at failed
        exact later value failed

theorem load_zero (parsers : Parsers) (env : Env) (failed : (load parsers env).2 ≠ none) :
    (load parsers env).1 = Config.zero := by
  unfold load at failed ⊢
  simp only at failed ⊢
  split
  · rfl
  next given =>
    rw [if_neg given] at failed
    refine checked_zero (fun rps => ?_) failed
    apply checked_zero
    intro burst
    apply checked_zero
    intro ttl
    apply checked_zero
    intro sweep
    apply checked_zero
    intro maxSessions
    apply checked_zero
    intro quota
    apply checked_zero
    intro trustProxy impossible
    exact absurd rfl impossible

/-- A finite number above zero. -/
def Positive (value : Float64) : Prop := ∃ rate, value = .finite rate ∧ 0 < rate

/-- What passes the comparison with zero: positive numbers, and NaN as well. -/
theorem at_most_zero_iff (value : Float64) :
    value.atMostZero = false ↔ Positive value ∨ value = .nan ∨ value = .posInf := by
  cases value with
  | finite rate => simp [Float64.atMostZero, Positive]
  | _ => simp [Float64.atMostZero, Positive]

/-- A configuration that `Load` made of what passed its checks. -/
structure Loaded (parsers : Parsers) (env : Env) (config : Config) : Prop where
  key : env "ZAI_API_KEY" ≠ []
  rps : envFloat parsers env "RATE_LIMIT_RPS" (.finite 1) = .ok config.rateLimitRPS
  rate : config.rateLimitRPS.atMostZero = false
  burst : envInt parsers env "RATE_LIMIT_BURST" 3 = .ok config.rateLimitBurst
  holds : 1 ≤ config.rateLimitBurst
  ttl : envDuration parsers env "RATE_LIMIT_TTL" (10 * minute) = .ok config.rateLimitTTL
  keeps : 0 < config.rateLimitTTL
  sweep : envDuration parsers env "RATE_LIMIT_SWEEP" minute = .ok config.rateLimitSweepEvery
  sweeps : 0 < config.rateLimitSweepEvery
  sessions : envInt parsers env "MAX_CONCURRENT_SESSIONS" 6 = .ok config.maxConcurrentSessions
  admits : 1 ≤ config.maxConcurrentSessions
  quota : envInt parsers env "DAILY_QUOTA" 20 = .ok config.dailyQuota
  allows : 1 ≤ config.dailyQuota
  proxy : envBool parsers env "TRUST_PROXY" false = .ok config.trustProxy
  addr : config.addr = orDefault (env "BACKEND_ADDR") (literal ":8080")
  origins : config.allowedOrigins = parseOrigins (env "FRONTEND_ORIGINS")
  zai : config.zaiAPIKey = env "ZAI_API_KEY"
  model : config.llmModel = orDefault (env "LLM_MODEL") (literal "glm-4.7")
  path : config.dbPath = orDefault (env "DB_PATH") (literal "./council.db")

theorem load_loaded {parsers : Parsers} {env : Env} (passed : (load parsers env).2 = none) :
    Loaded parsers env (load parsers env).1 := by
  unfold load at passed ⊢
  simp only at passed ⊢
  split at passed
  · cases passed
  next key =>
    rw [if_neg key]
    rcases checked_none_iff.mp passed with ⟨rps, rps_read, rps_fine, passed, same⟩
    rw [same]
    rcases checked_none_iff.mp passed with ⟨burst, burst_read, burst_fine, passed, same⟩
    rw [same]
    rcases checked_none_iff.mp passed with ⟨ttl, ttl_read, ttl_fine, passed, same⟩
    rw [same]
    rcases checked_none_iff.mp passed with ⟨sweep, sweep_read, sweep_fine, passed, same⟩
    rw [same]
    rcases checked_none_iff.mp passed with ⟨sessions, sessions_read, sessions_fine, passed, same⟩
    rw [same]
    rcases checked_none_iff.mp passed with ⟨quota, quota_read, quota_fine, passed, same⟩
    rw [same]
    rcases checked_none_iff.mp passed with ⟨proxy, proxy_read, -, passed, same⟩
    rw [same]
    exact {
      key := key
      rps := rps_read
      rate := rps_fine
      burst := burst_read
      holds := by simpa using burst_fine
      ttl := ttl_read
      keeps := by simpa using ttl_fine
      sweep := sweep_read
      sweeps := by simpa using sweep_fine
      sessions := sessions_read
      admits := by simpa using sessions_fine
      quota := quota_read
      allows := by simpa using quota_fine
      proxy := proxy_read
      addr := rfl
      origins := rfl
      zai := rfl
      model := rfl
      path := rfl }

/-- Some variable other than the rate stops `Load`. -/
def OtherInvalid (parsers : Parsers) (env : Env) : Prop :=
  env "ZAI_API_KEY" = [] ∨
    Bad parsers.atoi env "RATE_LIMIT_BURST" (1 ≤ ·) ∨
    Bad parsers.parseDuration env "RATE_LIMIT_TTL" (0 < ·) ∨
    Bad parsers.parseDuration env "RATE_LIMIT_SWEEP" (0 < ·) ∨
    Bad parsers.atoi env "MAX_CONCURRENT_SESSIONS" (1 ≤ ·) ∨
    Bad parsers.atoi env "DAILY_QUOTA" (1 ≤ ·) ∨
    Bad parsers.parseBool env "TRUST_PROXY" (fun _ => True)

/-- Some variable is unparsable or out of bounds. -/
def Invalid (parsers : Parsers) (env : Env) : Prop :=
  Bad parsers.parseFloat env "RATE_LIMIT_RPS" Positive ∨ OtherInvalid parsers env

theorem loaded_not_other {parsers : Parsers} {env : Env} {config : Config}
    (loaded : Loaded parsers env config) : ¬ OtherInvalid parsers env := by
  rintro (key | burst | ttl | sweep | sessions | quota | proxy)
  · exact loaded.key key
  · exact (env_value_fine_iff (by decide)).mp ⟨_, loaded.burst, loaded.holds⟩ burst
  · exact (env_value_fine_iff (by decide)).mp ⟨_, loaded.ttl, loaded.keeps⟩ ttl
  · exact (env_value_fine_iff (by decide)).mp ⟨_, loaded.sweep, loaded.sweeps⟩ sweep
  · exact (env_value_fine_iff (by decide)).mp ⟨_, loaded.sessions, loaded.admits⟩ sessions
  · exact (env_value_fine_iff (by decide)).mp ⟨_, loaded.quota, loaded.allows⟩ quota
  · exact (env_value_fine_iff trivial).mp ⟨_, loaded.proxy, trivial⟩ proxy

theorem checked_passes {Value : Type} {answer : Except LoadError Value} {value : Value}
    {fails : Value → Bool} {err : LoadError} {next : Value → Config × Option LoadError}
    (read : answer = .ok value) (fine : fails value = false) :
    checked answer fails err next = next value := by
  unfold checked
  rw [read]
  simp only [fine]
  rfl

/-- Where no other variable stops it, `Load` takes any rate that passes the
comparison. -/
theorem load_passes {parsers : Parsers} {env : Env} {rps : Float64}
    (others : ¬ OtherInvalid parsers env)
    (read : envFloat parsers env "RATE_LIMIT_RPS" (.finite 1) = .ok rps)
    (fine : rps.atMostZero = false) :
    (load parsers env).2 = none ∧ (load parsers env).1.rateLimitRPS = rps := by
  simp only [OtherInvalid, not_or] at others
  rcases others with ⟨key, burst, ttl, sweep, sessions, quota, proxy⟩
  have burst_read : ∃ value, envInt parsers env "RATE_LIMIT_BURST" 3 = .ok value ∧ 1 ≤ value :=
    (env_value_fine_iff (by decide)).mpr burst
  have ttl_read : ∃ value,
      envDuration parsers env "RATE_LIMIT_TTL" (10 * minute) = .ok value ∧ 0 < value :=
    (env_value_fine_iff (by decide)).mpr ttl
  have sweep_read : ∃ value,
      envDuration parsers env "RATE_LIMIT_SWEEP" minute = .ok value ∧ 0 < value :=
    (env_value_fine_iff (by decide)).mpr sweep
  have sessions_read : ∃ value,
      envInt parsers env "MAX_CONCURRENT_SESSIONS" 6 = .ok value ∧ 1 ≤ value :=
    (env_value_fine_iff (by decide)).mpr sessions
  have quota_read : ∃ value, envInt parsers env "DAILY_QUOTA" 20 = .ok value ∧ 1 ≤ value :=
    (env_value_fine_iff (by decide)).mpr quota
  have proxy_read : ∃ value, envBool parsers env "TRUST_PROXY" false = .ok value ∧ True :=
    (env_value_fine_iff trivial).mpr proxy
  rcases burst_read with ⟨burst, burst_read, burst_fine⟩
  rcases ttl_read with ⟨ttl, ttl_read, ttl_fine⟩
  rcases sweep_read with ⟨sweep, sweep_read, sweep_fine⟩
  rcases sessions_read with ⟨sessions, sessions_read, sessions_fine⟩
  rcases quota_read with ⟨quota, quota_read, quota_fine⟩
  rcases proxy_read with ⟨proxy, proxy_read, -⟩
  unfold load
  simp only
  rw [if_neg key, checked_passes read fine,
    checked_passes burst_read (by simpa using burst_fine),
    checked_passes ttl_read (by simpa using ttl_fine),
    checked_passes sweep_read (by simpa using sweep_fine),
    checked_passes sessions_read (by simpa using sessions_fine),
    checked_passes quota_read (by simpa using quota_fine), checked_passes proxy_read rfl]
  exact ⟨rfl, rfl⟩

theorem parse_origins_trimmed (raw origin : GoString) (member : origin ∈ parseOrigins raw) :
    origin ≠ [] ∧ trimSpace origin = origin := by
  unfold parseOrigins at member
  split at member
  · rw [List.mem_singleton.mp member]
    decide
  · rcases List.mem_filter.mp member with ⟨trimmed, some_⟩
    rcases List.mem_map.mp trimmed with ⟨part, -, rfl⟩
    exact ⟨by simpa using some_, trim_space_trimmed part⟩

/-- A configuration within all its bounds. -/
structure Usable (config : Config) : Prop where
  rps : Positive config.rateLimitRPS
  burst : 1 ≤ config.rateLimitBurst
  ttl : 0 < config.rateLimitTTL
  sweep : 0 < config.rateLimitSweepEvery
  sessions : 1 ≤ config.maxConcurrentSessions
  quota : 1 ≤ config.dailyQuota
  key : config.zaiAPIKey ≠ []
  addr : config.addr ≠ []
  model : config.llmModel ≠ []
  path : config.dbPath ≠ []
  origins : ∀ origin ∈ config.allowedOrigins, origin ≠ [] ∧ trimSpace origin = origin

/-- Without an error the configuration is usable, and an invalid variable is an
error with the zero configuration. -/
def FailsFast (parsers : Parsers) (env : Env) : Prop :=
  ((load parsers env).2 = none → Usable (load parsers env).1) ∧
    (Invalid parsers env →
      (load parsers env).2 ≠ none ∧ (load parsers env).1 = Config.zero)

theorem or_default_some {value fallback : GoString} (some_ : fallback ≠ []) :
    orDefault value fallback ≠ [] := by
  unfold orDefault
  split
  · exact some_
  · assumption

theorem loaded_usable {parsers : Parsers} {env : Env} {config : Config}
    (loaded : Loaded parsers env config) (positive : Positive config.rateLimitRPS) :
    Usable config where
  rps := positive
  burst := loaded.holds
  ttl := loaded.keeps
  sweep := loaded.sweeps
  sessions := loaded.admits
  quota := loaded.allows
  key := loaded.zai ▸ loaded.key
  addr := loaded.addr ▸ or_default_some (by decide)
  model := loaded.model ▸ or_default_some (by decide)
  path := loaded.path ▸ or_default_some (by decide)
  origins := loaded.origins ▸ parse_origins_trimmed (env "FRONTEND_ORIGINS")

/-- The rate variable is out of bounds and passes the comparison all the same
where it names NaN or the positive infinity. -/
theorem unlimited_rate_passes (parsers : Parsers) {env : Env}
    (named : Unlimited (env "RATE_LIMIT_RPS")) :
    ∃ rps, envFloat parsers env "RATE_LIMIT_RPS" (.finite 1) = .ok rps ∧
      rps.atMostZero = false ∧ ¬ Positive rps := by
  have some_ : env "RATE_LIMIT_RPS" ≠ [] := by
    intro unset
    rw [unset] at named
    exact absurd named (by decide)
  have read : ∀ value, parsers.parseFloat (env "RATE_LIMIT_RPS") = some value →
      envFloat parsers env "RATE_LIMIT_RPS" (.finite 1) = .ok value := by
    intro value parsed
    simp [envFloat, envValue, some_, parsed]
  rcases (parse_float_unlimited_iff parsers _).mpr named with parsed | parsed
  · exact ⟨.nan, read _ parsed, rfl, by simp [Positive]⟩
  · exact ⟨.posInf, read _ parsed, rfl, by simp [Positive]⟩

/-- A loaded rate is positive unless the variable names NaN or the positive
infinity. -/
theorem loaded_rate {parsers : Parsers} {env : Env} {config : Config}
    (loaded : Loaded parsers env config) (limited : ¬ Unlimited (env "RATE_LIMIT_RPS")) :
    Positive config.rateLimitRPS := by
  rcases (at_most_zero_iff _).mp loaded.rate with positive | special_
  · exact positive
  have read := loaded.rps
  unfold envFloat envValue at read
  simp only at read
  split at read
  · rw [← Except.ok.inj read] at special_
    rcases special_ with wrong | wrong <;> cases wrong
  · split at read
    next value parsed =>
      rw [← Except.ok.inj read] at special_
      have named : parsers.parseFloat (env "RATE_LIMIT_RPS") = some .nan ∨
          parsers.parseFloat (env "RATE_LIMIT_RPS") = some .posInf := by
        rcases special_ with same | same
        · exact .inl (parsed.trans (congrArg some same))
        · exact .inr (parsed.trans (congrArg some same))
      exact absurd ((parse_float_unlimited_iff parsers _).mp named) limited
    · cases read

/-- `Load` fails fast exactly where the rate is no spelling of NaN or of the
positive infinity, or another variable stops it anyway. -/
theorem load_fails_fast_iff (parsers : Parsers) (env : Env) :
    FailsFast parsers env ↔
      ¬ Unlimited (env "RATE_LIMIT_RPS") ∨ OtherInvalid parsers env := by
  constructor
  · rintro ⟨usable, -⟩
    by_contra exposed
    simp only [not_or, not_not] at exposed
    rcases unlimited_rate_passes parsers exposed.1 with ⟨rps, read, fine, not_positive⟩
    have passed := load_passes exposed.2 read fine
    have positive := (usable passed.1).rps
    rw [passed.2] at positive
    exact not_positive positive
  · intro safe
    have limited : (load parsers env).2 = none → Positive (load parsers env).1.rateLimitRPS := by
      intro passed
      have loaded := load_loaded passed
      rcases safe with limited | other
      · exact loaded_rate loaded limited
      · exact absurd other (loaded_not_other loaded)
    constructor
    · intro passed
      exact loaded_usable (load_loaded passed) (limited passed)
    · intro invalid
      have failed : (load parsers env).2 ≠ none := by
        intro passed
        have loaded := load_loaded passed
        rcases invalid with rate | other
        · exact (env_value_fine_iff ⟨1, rfl, by decide⟩).mp ⟨_, loaded.rps, limited passed⟩ rate
        · exact loaded_not_other loaded other
      exact ⟨failed, load_zero parsers env failed⟩

/-- The parsers on an environment whose other numbers are unset: none of them
is asked for anything but the rate. -/
def unasked : Parsers where
  atoi := fun _ => none
  readFloat := fun _ => none
  parseDuration := fun _ => none
  parseBool := fun _ => none

def nanRate : Env := fun key =>
  if key = "ZAI_API_KEY" then literal "key"
  else if key = "RATE_LIMIT_RPS" then literal "NaN"
  else []

/-- A rate of NaN is loaded without an error. -/
theorem nan_rate_loaded : ¬ ∀ parsers env, FailsFast parsers env := by
  intro fast
  have usable := (fast unasked nanRate).1 (by decide)
  rcases usable.rps with ⟨rate, same, -⟩
  have read : (load unasked nanRate).1.rateLimitRPS = .nan := by decide
  rw [read] at same
  cases same

end Council.LoadConfig
