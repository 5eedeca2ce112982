import Mathlib.Data.List.Basic
import Mathlib.Algebra.Order.Ring.Nat

/-!
# Fixed-width numbers as bytes

`leBytes w n` is the number `n` in `w` bytes, least significant byte first, and `beBytes w n` is
the same bytes most significant first. Reading the bytes back gives the number if it fits
(`ofLeBytes_leBytes`, `ofBeBytes_beBytes`), and the byte order of big-endian keys is the order of
the numbers (`beBytes_lt_iff`).
-/

/-- The `w` low bytes of `n`, least significant first. -/
def leBytes : ℕ → ℕ → List UInt8
  | 0, _ => []
  | w + 1, n => UInt8.ofNat n :: leBytes w (n / 256)

/-- The number that little-endian bytes stand for. -/
def ofLeBytes : List UInt8 → ℕ
  | [] => 0
  | b :: bs => b.toNat + 256 * ofLeBytes bs

/-- The `w` low bytes of `n`, most significant first. -/
def beBytes (w n : ℕ) : List UInt8 := (leBytes w n).reverse

/-- The number that big-endian bytes stand for. -/
def ofBeBytes (bytes : List UInt8) : ℕ := ofLeBytes bytes.reverse

@[simp] theorem length_leBytes (w n : ℕ) : (leBytes w n).length = w := by
  induction w generalizing n with
  | zero => rfl
  | succ w ih => simp [leBytes, ih]

@[simp] theorem length_beBytes (w n : ℕ) : (beBytes w n).length = w := by simp [beBytes]

/-- The bytes of a number stand for its low part. -/
theorem ofLeBytes_leBytes_mod (w n : ℕ) : ofLeBytes (leBytes w n) = n % 256 ^ w := by
  induction w generalizing n with
  | zero => simp [leBytes, ofLeBytes, Nat.mod_one]
  | succ w ih =>
    have byte : (UInt8.ofNat n).toNat = n % 256 := by simp
    rw [leBytes, ofLeBytes, ih, byte, pow_succ', Nat.mod_mul]

/-- A number that fits is read back. -/
theorem ofLeBytes_leBytes {w n : ℕ} (h : n < 256 ^ w) : ofLeBytes (leBytes w n) = n := by
  rw [ofLeBytes_leBytes_mod, Nat.mod_eq_of_lt h]

theorem ofLeBytes_lt (bytes : List UInt8) : ofLeBytes bytes < 256 ^ bytes.length := by
  induction bytes with
  | nil => simp [ofLeBytes]
  | cons b bs ih =>
    have := b.toNat_lt
    rw [ofLeBytes, List.length_cons, pow_succ']
    omega

theorem ofBeBytes_lt (bytes : List UInt8) : ofBeBytes bytes < 256 ^ bytes.length := by
  simpa [ofBeBytes] using ofLeBytes_lt bytes.reverse

theorem ofBeBytes_beBytes_mod (w n : ℕ) : ofBeBytes (beBytes w n) = n % 256 ^ w := by
  rw [ofBeBytes, beBytes, List.reverse_reverse, ofLeBytes_leBytes_mod]

/-- The most significant byte comes first. -/
theorem beBytes_succ (w n : ℕ) : beBytes (w + 1) n = UInt8.ofNat (n / 256 ^ w) :: beBytes w n := by
  have split : ∀ w n, leBytes (w + 1) n = leBytes w n ++ [UInt8.ofNat (n / 256 ^ w)] := by
    intro w
    induction w with
    | zero => intro n; simp [leBytes]
    | succ w ih =>
      intro n
      rw [leBytes, ih, leBytes, Nat.div_div_eq_div_mul, ← pow_succ', List.cons_append]
  simp [beBytes, split]

theorem beBytes_mod (w n : ℕ) : beBytes w (n % 256 ^ w) = beBytes w n := by
  have low : ∀ w n m, n % 256 ^ w = m % 256 ^ w → leBytes w n = leBytes w m := by
    intro w
    induction w with
    | zero => intro n m _; rfl
    | succ w ih =>
      intro n m h
      rw [pow_succ', Nat.mod_mul, Nat.mod_mul] at h
      have byte : n % 256 = m % 256 := by omega
      rw [leBytes, leBytes, ih (n / 256) (m / 256) (by omega)]
      congr 1
      exact UInt8.toNat_inj.1 (by simpa using byte)
  rw [beBytes, beBytes, low w _ n (Nat.mod_mod _ _)]

/-- The order of big-endian bytes is the order of the numbers. -/
theorem beBytes_lt_iff {w m n : ℕ} (hm : m < 256 ^ w) (hn : n < 256 ^ w) :
    beBytes w m < beBytes w n ↔ m < n := by
  induction w generalizing m n with
  | zero =>
    have : m = 0 := by simpa using hm
    have : n = 0 := by simpa using hn
    subst m n
    simp [beBytes, leBytes]
  | succ w ih =>
    have pos : 0 < 256 ^ w := Nat.pow_pos (by decide)
    have hdiv : ∀ k, k < 256 ^ (w + 1) → k / 256 ^ w < 256 := fun k hk =>
      Nat.div_lt_of_lt_mul (by rwa [← pow_succ])
    have byte : ∀ k, k < 256 ^ (w + 1) → (UInt8.ofNat (k / 256 ^ w)).toNat = k / 256 ^ w :=
      fun k hk => by rw [UInt8.toNat_ofNat', Nat.mod_eq_of_lt (hdiv k hk)]
    rw [beBytes_succ, beBytes_succ, List.cons_lt_cons_iff, ← beBytes_mod w m, ← beBytes_mod w n,
      ih (Nat.mod_lt _ pos) (Nat.mod_lt _ pos), UInt8.lt_iff_toNat_lt, ← UInt8.toNat_inj,
      byte m hm, byte n hn]
    have em := Nat.div_add_mod m (256 ^ w)
    have en := Nat.div_add_mod n (256 ^ w)
    constructor
    · rintro (h | ⟨heq, h⟩)
      · exact Nat.lt_of_div_lt_div h
      · rw [← em, ← en, heq]; omega
    · intro h
      rcases (Nat.div_le_div_right h.le : m / 256 ^ w ≤ n / 256 ^ w).lt_or_eq with hlt | heq
      · exact .inl hlt
      · refine .inr ⟨heq, ?_⟩
        rw [heq] at em
        omega

/-- Bytes are the bytes of the number they stand for. -/
theorem beBytes_ofBeBytes (bytes : List UInt8) : beBytes bytes.length (ofBeBytes bytes) = bytes := by
  have little : ∀ bs : List UInt8, leBytes bs.length (ofLeBytes bs) = bs := by
    intro bs
    induction bs with
    | nil => rfl
    | cons b bs ih =>
      have hb := b.toNat_lt
      have hdiv : (b.toNat + 256 * ofLeBytes bs) / 256 = ofLeBytes bs := by omega
      rw [List.length_cons, leBytes, ofLeBytes, hdiv, ih]
      congr 1
      exact UInt8.toNat_inj.1 (by simp)
  rw [beBytes, ofBeBytes, ← List.length_reverse, little, List.reverse_reverse]

/-- Keys of one width are in the order of the numbers they stand for. -/
theorem ofBeBytes_lt_iff {bs cs : List UInt8} (h : bs.length = cs.length) :
    ofBeBytes bs < ofBeBytes cs ↔ bs < cs := by
  have hb := ofBeBytes_lt bs
  have hc := ofBeBytes_lt cs
  rw [← beBytes_lt_iff (h ▸ hb) hc, ← h, beBytes_ofBeBytes, h, beBytes_ofBeBytes]
