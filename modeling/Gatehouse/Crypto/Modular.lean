/-!
# Arithmetic of residues

Powers and inverses modulo a number, and numbers as bytes with the most significant first.
-/

namespace Gatehouse.Crypto

/-- The power of a residue, by repeated squaring. -/
def powMod (m a : Nat) (e : Nat) : Nat :=
  if h : e = 0 then 1 % m
  else
    let half := powMod m (a * a % m) (e / 2)
    if e % 2 = 1 then a * half % m else half
termination_by e
decreasing_by omega

/-- A power of the square is the power with the doubled exponent. -/
theorem pow_square (a k : Nat) : Nat.pow (a * a) k = Nat.pow a (2 * k) := by
  show (a * a) ^ k = a ^ (2 * k)
  rw [Nat.pow_mul, Nat.pow_two]

theorem powMod_eq (m a e : Nat) : powMod m a e = Nat.pow a e % m := by
  fun_induction powMod m a e with
  | case1 => simp
  | case2 a e h half odd ih =>
    have split : e = 2 * (e / 2) + 1 := by omega
    calc a * half % m = a * (Nat.pow (a * a % m) (e / 2) % m) % m := by rw [← ih]
      _ = Nat.pow (a * a) (e / 2) * a % m := by
          rw [Nat.mul_comm a]
          simp [Nat.pow_eq, Nat.mul_mod, Nat.pow_mod]
      _ = Nat.pow a (2 * (e / 2) + 1) % m := by rw [pow_square, Nat.pow_eq, Nat.pow_eq, Nat.pow_succ]
      _ = Nat.pow a e % m := by rw [← split]
  | case3 a e h half even ih =>
    have split : e = 2 * (e / 2) := by omega
    calc half = Nat.pow (a * a % m) (e / 2) % m := ih
      _ = Nat.pow (a * a) (e / 2) % m := by simp [Nat.pow_eq, Nat.pow_mod]
      _ = Nat.pow a e % m := by rw [pow_square, ← split]

/-- The inverse of a residue modulo a prime, or zero for zero. -/
def inverse (p a : Nat) : Nat := powMod p a (p - 2)

/-- The difference of two residues. -/
def subMod (m a b : Nat) : Nat := (a % m + (m - b % m)) % m

/-- The number that bytes spell, the most significant first. -/
def number (bytes : List UInt8) : Nat := bytes.foldl (fun n b => n * 256 + b.toNat) 0

/-- The lowest bytes of a number, the most significant first. -/
def bytesOf : (length : Nat) → Nat → List UInt8
  | 0, _ => []
  | k + 1, n => bytesOf k (n / 256) ++ [(n % 256).toUInt8]

/-- How many binary digits a number has. -/
def bitLength (n : Nat) : Nat := if n = 0 then 0 else n.log2 + 1

/-- How many bytes a number takes. -/
def byteLength (n : Nat) : Nat := (bitLength n + 7) / 8

end Gatehouse.Crypto
