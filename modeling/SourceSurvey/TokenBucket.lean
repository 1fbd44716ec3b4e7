namespace SourceSurvey

structure TokenBucket where
  rate : Rat
  burst : Nat
  tokens : Rat
  time : Int
  deriving Repr, DecidableEq

namespace TokenBucket

def full (rate : Rat) (burst : Nat) (time : Int) : TokenBucket := ⟨rate, burst, burst, time⟩

def nanoseconds : Int := 1000000000

variable (b : TokenBucket)

def refill (now : Int) : TokenBucket :=
  if now ≤ b.time then b
  else
    let grown : Rat := b.tokens + (now - b.time : Int) * b.rate / nanoseconds
    { b with tokens := if b.burst ≤ grown then b.burst else grown, time := now }

def take? (now : Int) : Option TokenBucket :=
  let b := b.refill now
  if 1 ≤ b.tokens then some { b with tokens := b.tokens - 1 } else none

/-- Reserves a token and tells how long it takes, in nanoseconds, until it is there. Nothing is
reserved if that exceeds the patience. -/
def reserve? (now : Int) (patience : Option Int) : Option (Int × TokenBucket) :=
  let b := b.refill now
  let left := b.tokens - 1
  let delay : Int := if 0 ≤ left then 0 else if b.rate ≤ 0 then 0 else (-left * nanoseconds / b.rate).ceil
  let admitted := match patience with
    | none => true
    | some p => delay ≤ p
  if admitted && (0 ≤ left || 0 < b.rate) then some (delay, { b with tokens := left }) else none

end TokenBucket

end SourceSurvey
