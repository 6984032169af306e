import Mathlib.Logic.Function.Basic
import Mathlib.Algebra.Order.Ring.Rat

/-!
The per-IP rate limiter (`ratelimit/limiter.go`). `rate.Limiter` is a
parameter; the mutex makes each call one step. Times and rates are rationals.
-/

namespace Council.RateLimit

/-- The two operations of `golang.org/x/time/rate` in use: `NewLimiter` and
`AllowN(now, 1)`. -/
structure RateLib (Bucket : Type) where
  newLimiter : Rat → Nat → Bucket
  allowN : Bucket → Rat → Bool × Bucket

structure IpEntry (Bucket : Type) where
  lim : Bucket
  lastSeen : Rat

structure Limiter (Bucket : Type) where
  ips : String → Option (IpEntry Bucket)
  rps : Rat
  burst : Nat
  ttl : Rat

variable {Bucket : Type}

def New (rps : Rat) (burst : Nat) (ttl : Rat) : Limiter Bucket where
  ips := fun _ => none
  rps := rps
  burst := burst
  ttl := ttl

/-- `Allow` at the time `now`: the bucket is created on first sight. -/
def Limiter.allow (lib : RateLib Bucket) (limiter : Limiter Bucket) (ip : String) (now : Rat) :
    Bool × Limiter Bucket :=
  let bucket :=
    match limiter.ips ip with
    | some entry => entry.lim
    | none => lib.newLimiter limiter.rps limiter.burst
  let answer := lib.allowN bucket now
  (answer.1,
    { limiter with
      ips := Function.update limiter.ips ip (some { lim := answer.2, lastSeen := now }) })

/-- One pass of the janitor. -/
def Limiter.sweep (limiter : Limiter Bucket) (now : Rat) : Limiter Bucket :=
  { limiter with
    ips := fun ip =>
      match limiter.ips ip with
      | some entry => if limiter.ttl ≤ now - entry.lastSeen then none else some entry
      | none => none }

/-- An exact token bucket: full at first, refilled at its rate up to its
size, one token for each allowed call. -/
structure TokenBucket where
  rate : Rat
  burst : Nat
  tokens : Rat
  last : Option Rat
  deriving DecidableEq, Repr

/-- The tokens at the time `now`; a time before the last call refills
nothing. -/
def TokenBucket.level (bucket : TokenBucket) (now : Rat) : Rat :=
  match bucket.last with
  | none => bucket.burst
  | some last => min bucket.burst (bucket.tokens + bucket.rate * max 0 (now - last))

def tokenBuckets : RateLib TokenBucket where
  newLimiter rate burst := { rate := rate, burst := burst, tokens := burst, last := none }
  allowN bucket now :=
    if 1 ≤ bucket.level now then
      (true, { bucket with tokens := bucket.level now - 1, last := some now })
    else (false, bucket)

example : ((New 1 1 60 : Limiter TokenBucket).allow tokenBuckets "a" 0).1 = true := by
  decide +kernel

end Council.RateLimit
