import TimeProbe.Bytes

/-!
# Exactness of words

A word of a fixed width and the number it denotes determine each other. These lemmas
connect the executable reading and writing of octets to ordinary arithmetic modulo
the span of the width.
-/

namespace TimeProbe.Bytes

/-- One more octet multiplies the span by 256. -/
theorem span_succ (width : Nat) : span (width + 1) = span width * 256 := rfl

/-- The span of a width is a power of two, so shifting and dividing agree. -/
theorem span_eq_two_pow (width : Nat) : span width = Nat.pow 2 (8 * width) :=
  (Nat.pow_mul 2 8 width).symm

theorem span_pos (width : Nat) : 0 < span width := Nat.pow_pos (by decide)

/-- A shift by whole octets divides by their span. -/
theorem shiftRight_octets (n width : Nat) : n >>> (8 * width) = n / span width := by
  rw [Nat.shiftRight_eq_div_pow, span_eq_two_pow]
  rfl

/-- Accumulator form of the number that octets denote. -/
theorem foldl_toNat (bs : Bytes) (start : Nat) :
    bs.foldl (fun n b => n * 256 + b.toNat) start = start * span bs.length + toNat bs := by
  induction bs generalizing start with
  | nil => simp [toNat, span]
  | cons b bs ih =>
    simp only [List.foldl_cons, List.length_cons, toNat, Nat.zero_mul, Nat.zero_add, span_succ]
    rw [ih, ih b.toNat, Nat.add_mul, Nat.mul_assoc, Nat.mul_comm 256, Nat.add_assoc]

/-- The leading octet counts with the span of those behind it. -/
theorem toNat_cons (b : UInt8) (bs : Bytes) :
    toNat (b :: bs) = b.toNat * span bs.length + toNat bs := by
  simp only [toNat, List.foldl_cons, Nat.zero_mul, Nat.zero_add]
  exact foldl_toNat bs b.toNat

/-- Octets denote a number below the span of their length. -/
theorem toNat_lt (bs : Bytes) : toNat bs < span bs.length := by
  induction bs with
  | nil => exact span_pos 0
  | cons b bs ih =>
    have hb : b.toNat + 1 ≤ 256 := b.toNat_lt
    have hle := Nat.mul_le_mul_right (span bs.length) hb
    rw [Nat.add_mul, Nat.one_mul, Nat.mul_comm 256] at hle
    rw [toNat_cons, List.length_cons, span_succ]
    omega

/-- Two octets denote a number of sixteen bits. -/
theorem toNat_pair_lt (b₁ b₀ : UInt8) : toNat [b₁, b₀] < 65536 := by
  have h := toNat_lt [b₁, b₀]
  simpa [span] using h

/-- Writing a number and reading it back reduces it modulo the span of the width. -/
theorem toNat_ofNat (width n : Nat) : toNat (ofNat width n) = n % span width := by
  induction width with
  | zero => simp [ofNat, toNat, span, Nat.mod_one]
  | succ width ih =>
    have hhead : (UInt8.ofNat (n >>> (8 * width))).toNat = n / span width % 256 := by
      rw [UInt8.toNat_ofNat', shiftRight_octets]
    rw [ofNat, toNat_cons, hhead, ih, length_ofNat, span_succ, Nat.mod_mul, Nat.mul_comm,
      Nat.add_comm]

/-- Only the residue of a number matters to the octets that write it. -/
theorem ofNat_congr {width m n : Nat} (h : m % span width = n % span width) :
    ofNat width m = ofNat width n := by
  induction width with
  | zero => rfl
  | succ width ih =>
    rw [span_succ, Nat.mod_mul, Nat.mod_mul] at h
    have hlow : m % span width = n % span width := by
      have hmod := congrArg (· % span width) h
      simpa only [Nat.add_mul_mod_self_left, Nat.mod_mod] using hmod
    have hhigh : m / span width % 256 = n / span width % 256 := by
      rw [hlow] at h
      exact Nat.eq_of_mul_eq_mul_left (span_pos width) (Nat.add_left_cancel h)
    have hhead : UInt8.ofNat (m >>> (8 * width)) = UInt8.ofNat (n >>> (8 * width)) := by
      apply UInt8.toNat_inj.mp
      rw [UInt8.toNat_ofNat', UInt8.toNat_ofNat', shiftRight_octets, shiftRight_octets]
      exact hhigh
    rw [ofNat, ofNat, hhead, ih hlow]

/-- Reading octets and writing the number back restores them. -/
theorem ofNat_toNat (bs : Bytes) : ofNat bs.length (toNat bs) = bs := by
  induction bs with
  | nil => rfl
  | cons b bs ih =>
    have hlow : toNat (b :: bs) % span bs.length = toNat bs % span bs.length := by
      rw [toNat_cons, Nat.add_comm, Nat.add_mul_mod_self_right]
    have hhigh : toNat (b :: bs) / span bs.length = b.toNat := by
      rw [toNat_cons, Nat.add_comm, Nat.add_mul_div_right _ _ (span_pos _),
        Nat.div_eq_of_lt (toNat_lt bs), Nat.zero_add]
    rw [List.length_cons, ofNat, shiftRight_octets, hhigh, ofNat_congr hlow, ih]
    simp

/-- Writing an integer and reading it back reduces it modulo the span of the width. -/
theorem toNat_ofInt (width : Nat) (i : Int) : (toNat (ofInt width i) : Int) = i % span width := by
  have hspan : (0 : Int) < span width := by exact_mod_cast span_pos width
  have hnonneg := Int.emod_nonneg i (Int.ne_of_gt hspan)
  have hlt := Int.emod_lt_of_pos i hspan
  rw [ofInt, toNat_ofNat, Nat.mod_eq_of_lt (by omega)]
  omega

/-- An integer that fits the width is read back as it was written. -/
theorem toNat_ofInt_of_lt {width : Nat} {i : Int} (hnonneg : 0 ≤ i) (hlt : i < span width) :
    (toNat (ofInt width i) : Int) = i := by
  rw [toNat_ofInt, Int.emod_eq_of_lt hnonneg hlt]

/-- Octets are what writes the number that they denote. -/
theorem ofInt_toNat (bs : Bytes) : ofInt bs.length (toNat bs) = bs := by
  have hmod : ((toNat bs : Int) % span bs.length).toNat = toNat bs := by
    rw [← Int.natCast_emod, Int.toNat_natCast, Nat.mod_eq_of_lt (toNat_lt bs)]
  rw [ofInt, hmod, ofNat_toNat]

/-- A string whose length is a multiple of four needs no padding. -/
theorem align_eq_self {bs : Bytes} (h : bs.length % 4 = 0) : align bs = bs := by
  simp [align, gap, h, zeros]

/-- Padding to a multiple of four makes a string at most three octets longer. -/
theorem length_align (bs : Bytes) : (align bs).length = bs.length + gap bs.length := by
  simp [align]

end TimeProbe.Bytes
