import TimeProbe.Bytes

/-!
# Random octets

A source of octets. What a draw gives is up to the generator, which is told the seed, how many
draws came before, and the place of the octet in the draw. The ordinary generator is reproducible.
-/

namespace TimeProbe

/-- The octet at place `i` of the draw that follows on `draws` others. -/
def ordinaryOctet (seed : Int) (draws i : Nat) : UInt8 :=
  UInt8.ofNat ((seed + 17 * draws + 5 * i + 1) % 256).toNat

/-- A seed, the number of draws made, and the generator of the octets. -/
structure Entropy where
  seed : Int := 0
  draws : Nat := 0
  generator : Int → Nat → Nat → UInt8 := ordinaryOctet
deriving Inhabited

namespace Entropy

/-- The octet at place `i` of the next draw. -/
def octet (e : Entropy) (i : Nat) : UInt8 := e.generator e.seed e.draws i

/-- The next `n` random octets. -/
def draw (e : Entropy) (n : Nat) : Bytes × Entropy :=
  ((List.range n).map e.octet, { e with draws := e.draws + 1 })

/-- The next random number of 64 bits. -/
def drawWord (e : Entropy) : Nat × Entropy :=
  let (bs, e) := e.draw 8
  (Bytes.toNat bs, e)

@[simp]
theorem length_draw (e : Entropy) (n : Nat) : (e.draw n).1.length = n := by simp [draw]

end Entropy

end TimeProbe
