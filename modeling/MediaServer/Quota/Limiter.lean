import MediaServer.Quota.Tokens

namespace MediaServer

variable {K : Type} [Tokens K]

/-- The tokens a client has left, and when that was counted, in nanoseconds. -/
structure Bucket (K : Type) where
  tokens : K
  counted : Nat

/-- Refills a bucket for the time that has passed, but not above its size. A clock that
went back has let no time pass. -/
def Bucket.refill (size rate : K) (now : Nat) (bucket : Bucket K) : Bucket K :=
  let grown := Tokens.add bucket.tokens (Tokens.mul (Tokens.ofNanoseconds (now - bucket.counted)) rate)
  ⟨Tokens.least grown size, now⟩

def Bucket.take (bucket : Bucket K) : Bool × Bucket K :=
  if Tokens.reaches bucket.tokens (Tokens.ofNat 1 : K) then
    (true, { bucket with tokens := Tokens.sub bucket.tokens (Tokens.ofNat 1) })
  else (false, bucket)

/-- The buckets of all clients. A client that is new has a full bucket of size `burst`;
one that was not counted for `ttl` nanoseconds is idle. -/
structure Limiter (K : Type) where
  rate : K
  burst : K
  ttl : Nat
  buckets : List (String × Bucket K)

def Limiter.start (rate : K) (burst ttlSeconds : Nat) : Limiter K :=
  ⟨rate, Tokens.ofNat burst, ttlSeconds * nanosecondsPerSecond, []⟩

/-- The bucket of a client, which is full and of this moment if the client is new. -/
def Limiter.bucket (limiter : Limiter K) (client : String) (now : Nat) : Bucket K :=
  (limiter.buckets.lookup client).getD ⟨limiter.burst, now⟩

def Limiter.setBucket (limiter : Limiter K) (client : String) (bucket : Bucket K) : Limiter K :=
  if (limiter.buckets.lookup client).isSome then
    { limiter with
      buckets := limiter.buckets.map fun entry => if entry.1 == client then (client, bucket) else entry }
  else { limiter with buckets := limiter.buckets ++ [(client, bucket)] }

/-- Whether a client may send a request now; if so, it costs one token. -/
def Limiter.check (limiter : Limiter K) (client : String) (now : Nat) : Bool × Limiter K :=
  let (admitted, bucket) :=
    ((limiter.bucket client now).refill limiter.burst limiter.rate now).take
  (admitted, limiter.setBucket client bucket)

def Limiter.tracked (limiter : Limiter K) : Nat :=
  limiter.buckets.length

def Limiter.isFresh (limiter : Limiter K) (now : Nat) (bucket : Bucket K) : Bool :=
  now - bucket.counted < limiter.ttl

def Limiter.dropIdle (limiter : Limiter K) (now : Nat) : Limiter K :=
  { limiter with buckets := limiter.buckets.filter fun entry => limiter.isFresh now entry.2 }

/-- Drops idle clients and answers how many fewer there are afterwards. -/
def Limiter.evict (limiter : Limiter K) (now : Nat) : Nat × Limiter K :=
  let swept := limiter.dropIdle now
  (limiter.tracked - swept.tracked, swept)

end MediaServer
