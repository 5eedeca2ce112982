import Mathlib.Tactic.Linarith
import Mathlib.Algebra.Order.BigOperators.Group.List
import Marengo.Config
import Marengo.Lib.Machine

/-!
# Rate limits of the gateway

One token bucket per key. A bucket that no call has touched for ten minutes is dropped, and its key
starts with a full one. By then the bucket would be full, so that the drop gives no token away: over
any window a key is allowed its burst, what refills in the window, and the refunds
(`rate_limit_bound`).
-/

namespace Marengo

open Machine

inductive CommandBucket
  | tuning | motion | diagnostics | statusPoll | testing
deriving DecidableEq

namespace CommandBucket

def kind : CommandBucket → String
  | tuning => "tuning"
  | motion => "motion"
  | diagnostics => "diagnostics"
  | statusPoll => "status_poll"
  | testing => "testing"

variable {F : Type} [Scalar F]

def burst (bucket : CommandBucket) : F :=
  match bucket with
  | tuning => lit 10
  | motion | statusPoll => lit 2
  | diagnostics => lit 20
  | testing => lit 40

def refillRate (bucket : CommandBucket) : F :=
  match bucket with
  | tuning => lit 10
  | motion => lit 2
  | diagnostics | testing => lit 20
  | statusPoll => lit (1 / 2)

end CommandBucket

def bucketTtl : Duration := seconds 600

structure TokenBucket (F : Type) where
  tokens : F
  capacity : F
  refillPerSec : F
  lastRefill : Instant
  lastTouch : Instant

namespace TokenBucket

variable {F : Type} [Scalar F]

def new (capacity refillPerSec : F) (now : Instant) : TokenBucket F :=
  ⟨capacity, capacity, refillPerSec, now, now⟩

def refill (self : TokenBucket F) (now : Instant) : TokenBucket F :=
  let elapsed : F := secsF64 (now - self.lastRefill)
  if ble elapsed (lit 0) then self
  else { self with
    tokens := Scalar.min (self.tokens + elapsed * self.refillPerSec) self.capacity
    lastRefill := now }

def tryConsume (self : TokenBucket F) (now : Instant) : Bool × TokenBucket F :=
  let self := { self.refill now with lastTouch := now }
  if ble (lit 1) self.tokens then
    (true, { self with tokens := self.tokens - lit 1 })
  else (false, self)

def refundOne (self : TokenBucket F) (now : Instant) : TokenBucket F :=
  let self := self.refill now
  { self with tokens := Scalar.min (self.tokens + lit 1) self.capacity, lastTouch := now }

end TokenBucket

abbrev RateLimiter (F : Type) := String → Option (TokenBucket F)

def bucketKey (clientId joint : String) (bucket : CommandBucket) : String :=
  match bucket with
  | .tuning => clientId ++ ":" ++ joint ++ ":" ++ bucket.kind
  | .motion | .diagnostics | .testing => "__global__:" ++ joint ++ ":" ++ bucket.kind
  | .statusPoll => "__global__:" ++ bucket.kind

/-- A call of `allow`, or of `refund`, with the clock it reads. -/
structure LimiterCall where
  isRefund : Bool
  clientId : String
  joint : String
  bucket : CommandBucket
  now : Instant

namespace LimiterCall

def key (c : LimiterCall) : String := bucketKey c.clientId c.joint c.bucket

/-- `client_id.trim().is_empty()`. -/
def blank (c : LimiterCall) : Bool := c.clientId.toList.all isWhitespace

end LimiterCall

namespace RateLimiter

variable {F : Type} [Scalar F] (self : RateLimiter F)

def evictStale (now : Instant) : RateLimiter F :=
  fun key => (self key).filter fun bucket => now - bucket.lastTouch < bucketTtl

/-- The bucket of a call of `allow`: the one that is there, or a full one. -/
def entry (c : LimiterCall) : TokenBucket F :=
  (self.evictStale c.now c.key).getD (.new c.bucket.burst c.bucket.refillRate c.now)

def allow (c : LimiterCall) : Bool × RateLimiter F :=
  if c.blank then (false, self)
  else
    let r := (self.entry c).tryConsume c.now
    (r.1, Function.update (self.evictStale c.now) c.key (some r.2))

def refund (c : LimiterCall) : RateLimiter F :=
  if c.blank then self
  else match self c.key with
    | none => self
    | some entry => Function.update self c.key (some (entry.refundOne c.now))

def step (c : LimiterCall) : Bool × RateLimiter F :=
  if c.isRefund then (false, self.refund c) else self.allow c

end RateLimiter

/-! ## Keys -/

/-- What follows the last colon of a key. -/
def lastSegment (text : List Char) : List Char := (text.reverse.takeWhile (· ≠ ':')).reverse

theorem lastSegment_append (front back : List Char) (h : ':' ∉ back) :
    lastSegment (front ++ ':' :: back) = back := by
  have hback : ∀ c ∈ back.reverse, decide (c ≠ ':') = true := fun c hc =>
    decide_eq_true fun heq => h (heq ▸ List.mem_reverse.1 hc)
  rw [lastSegment, List.reverse_append, List.reverse_cons, List.append_assoc,
    List.takeWhile_append_of_pos hback]
  simp

theorem lastSegment_bucketKey (clientId joint : String) (bucket : CommandBucket) :
    lastSegment (bucketKey clientId joint bucket).toList = bucket.kind.toList := by
  have hkind : ':' ∉ bucket.kind.toList := by cases bucket <;> decide
  have hfront : ∃ front, (bucketKey clientId joint bucket).toList = front ++ ':' :: bucket.kind.toList := by
    cases bucket with
    | tuning => exact ⟨clientId.toList ++ ':' :: joint.toList, by simp [bucketKey]⟩
    | statusPoll => exact ⟨"__global__".toList, by simp [bucketKey]⟩
    | motion | diagnostics | testing =>
      exact ⟨"__global__:".toList ++ joint.toList, by simp [bucketKey]⟩
  obtain ⟨front, hfront⟩ := hfront
  rw [hfront, lastSegment_append front _ hkind]

/-- The key of some calls of the class. -/
def CommandBucket.Keyed (bucket : CommandBucket) (key : String) : Prop :=
  ∃ clientId joint, key = bucketKey clientId joint bucket

theorem LimiterCall.keyed (c : LimiterCall) : c.bucket.Keyed c.key := ⟨_, _, rfl⟩

/-- A key is one of a single class. -/
theorem CommandBucket.Keyed.class_eq {bucket bucket' : CommandBucket} {key : String}
    (h : bucket.Keyed key) (h' : bucket'.Keyed key) : bucket = bucket' := by
  obtain ⟨clientId, joint, rfl⟩ := h
  obtain ⟨clientId', joint', hkey⟩ := h'
  have hkind := lastSegment_bucketKey clientId joint bucket
  rw [hkey, lastSegment_bucketKey] at hkind
  cases bucket <;> cases bucket' <;> first | rfl | exact absurd hkind (by decide)

/-! ## Tokens -/

section
variable {K : Type} [Field K] [LinearOrder K] [IsStrictOrderedRing K]

attribute [local instance] Scalar.ofField

theorem secsF64_add (d e : Duration) : (secsF64 (d + e) : K) = secsF64 d + secsF64 e := by
  simp only [secsF64, lit_eq]
  push_cast
  exact add_div ..

theorem secsF64_nonneg (d : Duration) : (0 : K) ≤ secsF64 d := by
  simp only [secsF64, lit_eq]
  positivity

namespace CommandBucket

theorem refillRate_nonneg (bucket : CommandBucket) : (0 : K) ≤ bucket.refillRate := by
  cases bucket <;> norm_num [refillRate, lit_eq]

/-- What refills in a span of time. -/
theorem refilled_nonneg (bucket : CommandBucket) (d : Duration) :
    (0 : K) ≤ secsF64 d * bucket.refillRate :=
  mul_nonneg (secsF64_nonneg d) bucket.refillRate_nonneg

/-- A bucket refills while it is kept. -/
theorem burst_le (bucket : CommandBucket) : (bucket.burst : K) ≤ secsF64 bucketTtl * bucket.refillRate := by
  cases bucket <;> norm_num [burst, refillRate, secsF64, bucketTtl, seconds, lit_eq]

theorem one_le_burst (bucket : CommandBucket) : (1 : K) ≤ bucket.burst := by
  cases bucket <;> norm_num [burst, lit_eq]

end CommandBucket

/-- A bucket of the class, filled up and touched last at one time before `now`. -/
structure TokenBucket.Sound (bucket : CommandBucket) (now : Instant) (b : TokenBucket K) : Prop where
  capacity : b.capacity = bucket.burst
  rate : b.refillPerSec = bucket.refillRate
  nonneg : 0 ≤ b.tokens
  tokens_le : b.tokens ≤ bucket.burst
  touched : b.lastRefill = b.lastTouch
  past : b.lastTouch ≤ now

namespace TokenBucket.Sound

variable {bucket : CommandBucket} {τ now : Instant} {b : TokenBucket K}

theorem new (bucket : CommandBucket) (now : Instant) :
    Sound bucket now (.new (bucket.burst : K) bucket.refillRate now) :=
  ⟨rfl, rfl, zero_le_one.trans bucket.one_le_burst, le_rfl, rfl, le_rfl⟩

omit [IsStrictOrderedRing K] in
theorem mono (h : b.Sound bucket τ) (hnow : τ ≤ now) : b.Sound bucket now :=
  { h with past := h.past.trans hnow }

theorem refill_eq (h : b.Sound bucket now) : b.refill now = { b with
    tokens := min (b.tokens + secsF64 (now - b.lastTouch) * bucket.refillRate) bucket.burst
    lastRefill := now } := by
  simp only [refill, h.touched, h.rate, h.capacity, ble_iff, lit_zero]
  split
  · rename_i hle
    -- no time has passed: there is nothing to refill
    have hzero : (secsF64 (now - b.lastTouch) : K) = 0 := le_antisymm hle (secsF64_nonneg _)
    have hdiff : now - b.lastTouch = 0 := by
      simp only [secsF64, lit_eq] at hzero
      have hrat : ((now - b.lastTouch : ℕ) : ℚ) / 1000000000 = 0 := by exact_mod_cast hzero
      have := (div_eq_zero_iff.1 hrat).resolve_right (by norm_num)
      exact_mod_cast this
    have hnow : now = b.lastRefill :=
      h.touched ▸ Nat.le_antisymm (Nat.sub_eq_zero_iff_le.1 hdiff) h.past
    rw [hzero, zero_mul, add_zero, min_eq_left h.tokens_le, hnow, ← h.capacity, ← h.rate]
  · rfl

/-- The tokens that the bucket has at `now`. -/
theorem level_mem (h : b.Sound bucket now) :
    0 ≤ (b.refill now).tokens ∧ (b.refill now).tokens ≤ bucket.burst := by
  rw [h.refill_eq]
  exact ⟨le_min (add_nonneg h.nonneg (bucket.refilled_nonneg _))
    (zero_le_one.trans bucket.one_le_burst), min_le_right ..⟩

/-- Tokens grow at the rate of the class at most. -/
theorem level_mono (h : b.Sound bucket τ) (hnow : τ ≤ now) :
    (b.refill now).tokens ≤ (b.refill τ).tokens + secsF64 (now - τ) * bucket.refillRate := by
  have hpast := h.past
  rw [h.refill_eq, (h.mono hnow).refill_eq, ← min_add_add_right]
  have hsplit : now - b.lastTouch = τ - b.lastTouch + (now - τ) :=
    ((add_comm ..).trans (tsub_add_tsub_cancel hnow hpast)).symm
  have hgrown := bucket.refilled_nonneg (K := K) (now - τ)
  rw [hsplit, secsF64_add, add_mul, ← add_assoc]
  exact min_le_min le_rfl (le_add_of_nonneg_right hgrown)

/-- A bucket that is dropped is full. -/
theorem level_stale (h : b.Sound bucket now) (hstale : bucketTtl ≤ now - b.lastTouch) :
    (b.refill now).tokens = bucket.burst := by
  rw [h.refill_eq]
  refine min_eq_right ((bucket.burst_le.trans ?_).trans (le_add_of_nonneg_left h.nonneg))
  refine mul_le_mul_of_nonneg_right ?_ bucket.refillRate_nonneg
  rw [← Nat.sub_add_cancel hstale, secsF64_add]
  exact le_add_of_nonneg_left (secsF64_nonneg _)

/-- The bucket at the time of a call, with as many tokens as the call leaves. -/
theorem touch (h : b.Sound bucket now) {tokens : K} (hpos : 0 ≤ tokens) (hle : tokens ≤ bucket.burst) :
    { b.refill now with tokens := tokens, lastTouch := now }.Sound bucket now ∧
      ({ b.refill now with tokens := tokens, lastTouch := now }.refill now).tokens = tokens := by
  have hsound : { b.refill now with tokens := tokens, lastTouch := now }.Sound bucket now := by
    rw [h.refill_eq]
    exact ⟨h.capacity, h.rate, hpos, hle, rfl, le_rfl⟩
  refine ⟨hsound, ?_⟩
  rw [hsound.refill_eq]
  simp [secsF64, lit_eq, hle]

theorem tryConsume (h : b.Sound bucket now) : (b.tryConsume now).2.Sound bucket now ∧
    (if (b.tryConsume now).1 then 1 else 0) + ((b.tryConsume now).2.refill now).tokens =
      (b.refill now).tokens := by
  obtain ⟨hpos, hle⟩ := h.level_mem
  simp only [TokenBucket.tryConsume, ble_iff, lit_one]
  split
  · rename_i hone
    obtain ⟨hsound, hlevel⟩ := h.touch (sub_nonneg.2 hone) ((sub_le_self _ zero_le_one).trans hle)
    exact ⟨hsound, by rw [hlevel]; exact add_sub_cancel ..⟩
  · obtain ⟨hsound, hlevel⟩ := h.touch hpos hle
    exact ⟨hsound, by rw [hlevel]; exact zero_add _⟩

theorem refundOne (h : b.Sound bucket now) : (b.refundOne now).Sound bucket now ∧
    ((b.refundOne now).refill now).tokens ≤ (b.refill now).tokens + 1 := by
  obtain ⟨hpos, hle⟩ := h.level_mem
  have hcap : (b.refill now).capacity = bucket.burst := by rw [h.refill_eq]; exact h.capacity
  obtain ⟨hsound, hlevel⟩ := h.touch (le_min (add_nonneg hpos zero_le_one)
    (zero_le_one.trans bucket.one_le_burst)) (min_le_right ((b.refill now).tokens + 1) bucket.burst)
  have heq : b.refundOne now = { b.refill now with
      tokens := min ((b.refill now).tokens + 1) bucket.burst, lastTouch := now } := by
    simp only [TokenBucket.refundOne, lit_one, Scalar.min_eq, ← hcap]
  rw [heq]
  exact ⟨hsound, hlevel.trans_le (min_le_left ..)⟩

end TokenBucket.Sound

/-! ## Runs -/

namespace RateLimiter

/-- Every bucket is one of the class of its key. -/
def Sound (now : Instant) (self : RateLimiter K) : Prop :=
  ∀ ⦃bucket : CommandBucket⦄ ⦃key b⦄, bucket.Keyed key → self key = some b → b.Sound bucket now

/-- The tokens of a key of the class. A bucket that is not there is full. -/
def level (self : RateLimiter K) (bucket : CommandBucket) (key : String) (now : Instant) : K :=
  (self key).elim bucket.burst fun b => (b.refill now).tokens

variable {self : RateLimiter K} {τ now : Instant} {bucket : CommandBucket} {key : String}

omit [IsStrictOrderedRing K] in
theorem Sound.mono (h : Sound τ self) (hnow : τ ≤ now) : Sound now self :=
  fun _ _ _ hk hb => (h hk hb).mono hnow

theorem Sound.level_mem (h : Sound now self) (hk : bucket.Keyed key) :
    0 ≤ self.level bucket key now ∧ self.level bucket key now ≤ bucket.burst := by
  rw [level]
  cases hb : self key with
  | none => exact ⟨zero_le_one.trans bucket.one_le_burst, le_rfl⟩
  | some b => exact (h hk hb).level_mem

theorem Sound.level_mono (h : Sound τ self) (hk : bucket.Keyed key) (hnow : τ ≤ now) :
    self.level bucket key now ≤ self.level bucket key τ + secsF64 (now - τ) * bucket.refillRate := by
  rw [level, level]
  cases hb : self key with
  | none =>
    exact le_add_of_nonneg_right (bucket.refilled_nonneg _)
  | some b => exact (h hk hb).level_mono hnow

omit [IsStrictOrderedRing K] in
theorem Sound.evictStale (h : Sound now self) : Sound now (self.evictStale now) :=
  fun _ _ _ hk hb => h hk (Option.filter_eq_some_iff.1 hb).1

/-- What a drop takes away is made up by the full bucket that follows. -/
theorem Sound.level_evictStale (h : Sound now self) (hk : bucket.Keyed key) :
    (self.evictStale now).level bucket key now = self.level bucket key now := by
  rw [level, level, RateLimiter.evictStale]
  cases hb : self key with
  | none => rfl
  | some b =>
    by_cases hfresh : now - b.lastTouch < bucketTtl
    · rw [Option.filter_some_pos (by simpa using hfresh)]
    · rw [Option.filter_some_neg (by simpa using hfresh)]
      exact ((h hk hb).level_stale (not_lt.1 hfresh)).symm

omit [IsStrictOrderedRing K] in
/-- One bucket is replaced by another of its class. -/
theorem Sound.update (h : Sound now self) {c : LimiterCall} {b : TokenBucket K}
    (hb : b.Sound c.bucket now) : Sound now (Function.update self c.key (some b)) := by
  intro bucket key b' hk hb'
  by_cases hkey : key = c.key
  · subst hkey
    rw [Function.update_self, Option.some_inj] at hb'
    exact hb' ▸ hk.class_eq c.keyed ▸ hb
  · rw [Function.update_of_ne hkey] at hb'
    exact h hk hb'

omit [IsStrictOrderedRing K] in
theorem level_update (self : RateLimiter K) {key' : String} {b : TokenBucket K} :
    level (Function.update self key' (some b)) bucket key now =
      if key = key' then (b.refill now).tokens else self.level bucket key now := by
  rw [level, level, Function.update_apply]
  split <;> rfl

theorem Sound.entry {c : LimiterCall} (h : Sound c.now self) : (self.entry c).Sound c.bucket c.now ∧
    ((self.entry c).refill c.now).tokens = self.level c.bucket c.key c.now := by
  have hnew := TokenBucket.Sound.new (K := K) c.bucket c.now
  rw [← h.level_evictStale c.keyed, level, RateLimiter.entry]
  cases hb : self.evictStale c.now c.key with
  | none =>
    refine ⟨hnew, ?_⟩
    rw [Option.getD_none, hnew.refill_eq]
    exact min_eq_right (le_add_of_nonneg_right (c.bucket.refilled_nonneg _))
  | some b => exact ⟨h.evictStale c.keyed hb, rfl⟩

/-- A call that is allowed pays a token, and only a refund adds one. -/
theorem Sound.step {c : LimiterCall} (h : Sound c.now self) (hk : bucket.Keyed key) :
    Sound c.now (self.step c).2 ∧
      (if (self.step c).1 ∧ c.key = key then 1 else 0) + (self.step c).2.level bucket key c.now ≤
        self.level bucket key c.now + if c.isRefund ∧ c.key = key then 1 else 0 := by
  have hidle : (0 : K) ≤ if c.isRefund ∧ c.key = key then 1 else 0 := by split <;> norm_num
  rw [RateLimiter.step, RateLimiter.refund, RateLimiter.allow]
  by_cases hblank : c.blank
  · simpa [hblank] using And.intro h hidle
  cases hrefund : c.isRefund with
  | false =>
    obtain ⟨hentry, hlevel⟩ := h.entry
    obtain ⟨hsound, hpaid⟩ := hentry.tryConsume
    refine ⟨by simpa [hblank] using h.evictStale.update hsound, ?_⟩
    by_cases hkey : c.key = key
    · subst hkey
      obtain rfl := hk.class_eq c.keyed
      simp only [hblank, and_true, Bool.false_eq_true, if_false, add_zero, level_update, if_true]
      rw [hpaid, hlevel]
    · simp [hblank, level_update, hkey, Ne.symm hkey, h.level_evictStale hk]
  | true =>
    cases hb : self c.key with
    | none => simpa [hblank, hb, hrefund] using And.intro h (by simpa [hrefund] using hidle)
    | some b =>
      obtain ⟨hsound, hpaid⟩ := (h c.keyed hb).refundOne
      refine ⟨by simpa [hblank] using h.update hsound, ?_⟩
      by_cases hkey : c.key = key
      · subst hkey
        obtain rfl := hk.class_eq c.keyed
        simpa [hblank, level, hb] using hpaid
      · simp [hblank, level_update, hkey, Ne.symm hkey]

def allowed {F : Type} (key : String) (ts : List (Turn (RateLimiter F) LimiterCall Bool)) : ℕ :=
  ts.countP fun t => t.output ∧ t.input.key = key

def refunds (key : String) (calls : List LimiterCall) : ℕ :=
  calls.countP fun c => c.isRefund ∧ c.key = key

theorem Sound.run {b : Instant} {calls : List LimiterCall} (h : Sound τ self) (hk : bucket.Keyed key)
    (hb : τ ≤ b) (hsorted : calls.Pairwise (·.now ≤ ·.now))
    (hwindow : ∀ c ∈ calls, τ ≤ c.now ∧ c.now ≤ b) :
    Sound b (final RateLimiter.step self calls) ∧
      (allowed key (turns RateLimiter.step self calls) : K) ≤
        self.level bucket key τ + secsF64 (b - τ) * bucket.refillRate + refunds key calls := by
  induction calls generalizing self τ with
  | nil =>
    refine ⟨h.mono hb, ?_⟩
    simpa [turns, allowed, refunds] using add_nonneg (h.level_mem hk).1 (bucket.refilled_nonneg (b - τ))
  | cons c calls ih =>
    obtain ⟨hfirst, hrest⟩ := List.pairwise_cons.1 hsorted
    obtain ⟨hc, hcb⟩ := hwindow c List.mem_cons_self
    obtain ⟨hsound, hspent⟩ := (h.mono hc).step hk
    obtain ⟨hend, hcount⟩ := ih hsound hcb hrest fun c' hc' =>
      ⟨hfirst c' hc', (hwindow c' (List.mem_cons_of_mem c hc')).2⟩
    refine ⟨hend, ?_⟩
    have hgrown := h.level_mono hk hc
    have hsplit : (secsF64 (b - τ) : K) = secsF64 (b - c.now) + secsF64 (c.now - τ) := by
      rw [← secsF64_add, tsub_add_tsub_cancel hcb hc]
    simp only [turns, allowed, refunds, List.countP_cons, turn, Nat.cast_add, Nat.cast_ite,
      Nat.cast_one, Nat.cast_zero, decide_eq_true_eq] at hcount ⊢
    rw [hsplit, add_mul]
    linarith

end RateLimiter

/-- **The rate limit.** The calls `during` a window from `a` to `b`, after those `before`: for any key
of a class, the allowed ones are at most the burst, what refills in the window, and the refunds; no
bucket ever holds more than the burst; and in a class without client ids, the key and the answers are
the same for all of them. -/
theorem rate_limit_bound (before during : List LimiterCall) (a b : Instant)
    (hsorted : (before ++ during).Pairwise (·.now ≤ ·.now))
    (hwindow : ∀ c ∈ during, a ≤ c.now ∧ c.now ≤ b) :
    let s : RateLimiter K := final RateLimiter.step (fun _ => none) before
    (∀ (bucket : CommandBucket) (key : String), bucket.Keyed key →
      (RateLimiter.allowed key (turns RateLimiter.step s during) : K) ≤
        bucket.burst + secsF64 (b - a) * bucket.refillRate + RateLimiter.refunds key during ∧
      ∀ e, s key = some e → e.tokens ≤ bucket.burst) ∧
    ∀ (c : LimiterCall) (other : String), c.bucket ≠ .tuning → c.blank = false →
      { c with clientId := other }.blank = false →
      { c with clientId := other }.key = c.key ∧ s.step { c with clientId := other } = s.step c := by
  intro s
  have hempty : RateLimiter.Sound 0 (fun _ => none : RateLimiter K) := fun _ _ _ _ h => nomatch h
  obtain ⟨hbefore, hduring, hafter⟩ := List.pairwise_append.1 hsorted
  have hsound : ∀ τ, (∀ c ∈ before, c.now ≤ τ) → s.Sound τ := fun τ hτ =>
    (hempty.run ⟨"", "", rfl⟩ (Nat.zero_le τ) hbefore fun c hc => ⟨Nat.zero_le _, hτ c hc⟩ :
      _ ∧ (RateLimiter.allowed (bucketKey "" "" .testing) _ : K) ≤ _).1
  refine ⟨fun bucket key hk => ⟨?_, fun e he => ?_⟩, fun c other hclass hblank hblank' => ?_⟩
  · cases during with
    | nil =>
      have hrate := bucket.refilled_nonneg (K := K) (b - a)
      simpa [turns, RateLimiter.allowed, RateLimiter.refunds] using
        add_nonneg (zero_le_one.trans bucket.one_le_burst) hrate
    | cons c calls =>
      -- the window of the calls starts with the first of them
      have hs := hsound c.now fun c' hc' => hafter c' hc' c List.mem_cons_self
      obtain ⟨hac, hcb⟩ := hwindow c List.mem_cons_self
      have hfirst : ∀ c' ∈ c :: calls, c.now ≤ c'.now :=
        List.forall_mem_cons.2 ⟨le_rfl, (List.pairwise_cons.1 hduring).1⟩
      have hcount := (hs.run hk hcb hduring fun c' hc' => ⟨hfirst c' hc', (hwindow c' hc').2⟩).2
      have hlevel := (hs.level_mem hk).2
      have hsplit : (secsF64 (b - a) : K) = secsF64 (b - c.now) + secsF64 (c.now - a) := by
        rw [← secsF64_add, tsub_add_tsub_cancel hcb hac]
      have hlead := bucket.refilled_nonneg (K := K) (c.now - a)
      rw [hsplit, add_mul]
      linarith
  · exact (hsound (before.map (·.now)).sum (fun c hc => List.single_le_sum
      (fun _ _ => Nat.zero_le _) _ (List.mem_map_of_mem hc)) hk he).tokens_le
  · have hkey : { c with clientId := other }.key = c.key := by
      simp only [LimiterCall.key]
      cases hbucket : c.bucket with
      | tuning => exact absurd hbucket hclass
      | motion | diagnostics | statusPoll | testing => rfl
    refine ⟨hkey, ?_⟩
    simp only [RateLimiter.step, RateLimiter.refund, RateLimiter.allow, RateLimiter.entry, hkey, hblank,
      hblank']

/-- Motion commands of two clients for one joint. -/
def Bench.motionCalls : List LimiterCall :=
  [⟨false, "a", "elbow", .motion, 0⟩, ⟨false, "b", "elbow", .motion, 1⟩,
    ⟨false, "a", "elbow", .motion, 2⟩]

/-- Within a second, two of them and what refills. -/
theorem rate_limit_bound_motion : (RateLimiter.allowed (bucketKey "a" "elbow" .motion)
    (turns RateLimiter.step (fun _ => none : RateLimiter ℚ) Bench.motionCalls) : ℚ) ≤ 4 := by
  have h := ((rate_limit_bound (K := ℚ) [] Bench.motionCalls 0 (seconds 1) (by decide) (by decide)).1
    .motion _ ⟨"a", "elbow", rfl⟩).1
  refine h.trans ?_
  norm_num [CommandBucket.burst, CommandBucket.refillRate, secsF64, seconds, lit_eq,
    RateLimiter.refunds, Bench.motionCalls]

namespace RateLimiter

/-- A bucket was touched last by one of the calls. -/
def Touched (calls : List LimiterCall) (self : RateLimiter K) : Prop :=
  ∀ key b, self key = some b → ∃ c ∈ calls, c.key = key ∧ b.lastTouch = c.now

variable {seen calls : List LimiterCall} {self : RateLimiter K}

omit [IsStrictOrderedRing K] in
theorem Touched.step (h : Touched seen self) (c : LimiterCall) :
    Touched (seen ++ [c]) (self.step c).2 := by
  have hkept : Touched (seen ++ [c]) self := fun key b hb =>
    (h key b hb).imp fun _ he => ⟨List.mem_append_left _ he.1, he.2⟩
  have hupdate : ∀ (kept : RateLimiter K) (b' : TokenBucket K), Touched (seen ++ [c]) kept →
      b'.lastTouch = c.now → Touched (seen ++ [c]) (Function.update kept c.key (some b')) := by
    intro kept b' hold hnow key b hb
    rw [Function.update_apply] at hb
    split at hb
    · obtain rfl := Option.some.inj hb
      exact ⟨c, by simp, Eq.symm ‹_›, hnow⟩
    · exact hold key b hb
  rw [RateLimiter.step, refund, allow]
  split_ifs
  · exact hkept
  · split
    · exact hkept
    · exact hupdate _ _ hkept rfl
  · exact hkept
  · refine hupdate _ _ (fun key b hb => hkept key b (Option.filter_eq_some_iff.1 hb).1) ?_
    rw [TokenBucket.tryConsume]
    split <;> rfl

omit [IsStrictOrderedRing K] in
theorem Touched.run (h : Touched seen self) :
    Touched (seen ++ calls) (final RateLimiter.step self calls) := by
  induction calls generalizing seen self with
  | nil => rwa [List.append_nil]
  | cons c calls ih => exact List.append_cons .. ▸ ih (h.step c)

end RateLimiter

/-- **A client under its rate is never refused.** After any calls, a call of `allow` is granted if each
call of its key before it lies back for as long as a token takes to refill. -/
theorem spaced_calls_allowed (before : List LimiterCall) (c : LimiterCall)
    (hsorted : (before ++ [c]).Pairwise (·.now ≤ ·.now)) (hallow : c.isRefund = false)
    (hblank : c.blank = false) (hspaced : ∀ e ∈ before, e.key = c.key →
      (1 : K) ≤ secsF64 (c.now - e.now) * c.bucket.refillRate) :
    let s : RateLimiter K := final RateLimiter.step (fun _ => none) before
    (s.step c).1 = true := by
  intro s
  have hempty : RateLimiter.Sound 0 (fun _ => none : RateLimiter K) := fun _ _ _ _ h => nomatch h
  obtain ⟨hbefore, -, hpast⟩ := List.pairwise_append.1 hsorted
  have hsound : s.Sound c.now := (hempty.run c.keyed (Nat.zero_le c.now) hbefore fun e he =>
    ⟨Nat.zero_le _, hpast e he c List.mem_cons_self⟩).1
  have hlevel : 1 ≤ s.level c.bucket c.key c.now := by
    rw [RateLimiter.level]
    cases hb : s c.key with
    | none => exact c.bucket.one_le_burst
    | some b =>
      have hnone : RateLimiter.Touched [] (fun _ => none : RateLimiter K) := fun _ _ h => nomatch h
      have htouched : s.Touched before := hnone.run
      obtain ⟨e, he, hkey, htouch⟩ := htouched _ b hb
      have hb := hsound c.keyed hb
      rw [Option.elim_some, hb.refill_eq, htouch]
      exact le_min (le_add_of_nonneg_of_le hb.nonneg (hspaced e he hkey)) c.bucket.one_le_burst
  rw [← hsound.entry.2] at hlevel
  simp [RateLimiter.step, RateLimiter.allow, hallow, hblank, TokenBucket.tryConsume, lit_one, ble_iff,
    hlevel]

/-- Polls of two clients, two seconds apart. -/
theorem spaced_calls_allowed_polls :
    ((final RateLimiter.step (fun _ => none : RateLimiter ℚ)
      [⟨false, "a", "", .statusPoll, 0⟩]).step ⟨false, "b", "", .statusPoll, seconds 2⟩).1 = true :=
  spaced_calls_allowed (K := ℚ) _ _ (by decide) rfl (by decide) fun e he _ => by
    obtain rfl := List.mem_singleton.1 he
    norm_num [CommandBucket.refillRate, secsF64, seconds, lit_eq]

end

end Marengo
