import VehicleDamage.Number.Rounding

/-!
Binary32 numbers as exact values. A finite magnitude is a count of quanta of 2^-149; operations compute the
exact result and round it once.
-/

namespace VehicleDamage

attribute [local instance (high)] instPowNat

/-- A finite binary32 magnitude, counted in quanta of 2^-149. -/
structure Magnitude where
  quanta : Nat
  representable : ∃ m s : Nat, m ≤ 2 ^ BinaryFormat.single.bits ∧ quanta = m * 2 ^ s
  below_limit : quanta < BinaryFormat.single.limit
deriving DecidableEq

/-- The same magnitude counted in binary64's quanta. -/
def Magnitude.toDouble (a : Magnitude) : Nat :=
  a.quanta * (BinaryFormat.double.unit / BinaryFormat.single.unit)

inductive Binary32 where
  | nan
  | infinite (negative : Bool)
  | finite (negative : Bool) (magnitude : Magnitude)
deriving DecidableEq

namespace Binary32

open BinaryFormat (single)

/-- The number nearest to `num / den` quanta. -/
def ofQuotient (negative : Bool) (num den : Nat) : Binary32 :=
  if h : single.round num den < single.limit then
    finite negative ⟨single.round num den, roundToBits_representable single.bits num den, h⟩
  else
    infinite negative

/-- The number nearest to a count of binary64's quanta. -/
def ofDouble (negative : Bool) (quanta : Nat) : Binary32 :=
  ofQuotient negative (quanta * single.unit) BinaryFormat.double.unit

def signedZero (negative : Bool) : Binary32 :=
  finite negative ⟨0, ⟨0, 0, Nat.zero_le _, rfl⟩, Nat.two_pow_pos _⟩

def zero : Binary32 := signedZero false

def ofNat (n : Nat) : Binary32 :=
  ofQuotient false (n * single.unit) 1

def ofInt (i : Int) : Binary32 :=
  ofQuotient (decide (i < 0)) (i.natAbs * single.unit) 1

def one : Binary32 := ofNat 1

instance : Inhabited Binary32 := ⟨zero⟩

def signed (negative : Bool) (quanta : Nat) : Int :=
  if negative then -(quanta : Int) else quanta

/-- The place of a number on the line, in quanta; the infinities stand at the limit. -/
def place? : Binary32 → Option Int
  | nan => none
  | infinite negative => some (signed negative single.limit)
  | finite negative a => some (signed negative a.quanta)

def isNaN : Binary32 → Bool
  | nan => true
  | _ => false

def isFinite : Binary32 → Bool
  | finite _ _ => true
  | _ => false

/-- Strict order; a NaN is in no relation, and both zeros stand at one place. -/
def lt (x y : Binary32) : Bool :=
  match x.place?, y.place? with
  | some a, some b => decide (a < b)
  | _, _ => false

def le (x y : Binary32) : Bool :=
  match x.place?, y.place? with
  | some a, some b => decide (a ≤ b)
  | _, _ => false

def neg : Binary32 → Binary32
  | nan => nan
  | infinite negative => infinite !negative
  | finite negative a => finite (!negative) a

def abs : Binary32 → Binary32
  | nan => nan
  | infinite _ => infinite false
  | finite _ a => finite false a

/-- A sum of zero is negative only when both terms are. -/
def add : Binary32 → Binary32 → Binary32
  | nan, _ => nan
  | _, nan => nan
  | infinite s, infinite t => if s = t then infinite s else nan
  | infinite s, finite _ _ => infinite s
  | finite _ _, infinite t => infinite t
  | finite s a, finite t b =>
    let sum := signed s a.quanta + signed t b.quanta
    if sum = 0 then signedZero (s && t) else ofQuotient (decide (sum < 0)) sum.natAbs 1

def sub (x y : Binary32) : Binary32 :=
  x.add y.neg

def mul : Binary32 → Binary32 → Binary32
  | nan, _ => nan
  | _, nan => nan
  | infinite s, infinite t => infinite (s != t)
  | infinite s, finite t b => if b.quanta = 0 then nan else infinite (s != t)
  | finite s a, infinite t => if a.quanta = 0 then nan else infinite (s != t)
  | finite s a, finite t b => ofQuotient (s != t) (a.quanta * b.quanta) single.unit

def div : Binary32 → Binary32 → Binary32
  | nan, _ => nan
  | _, nan => nan
  | infinite _, infinite _ => nan
  | infinite s, finite t _ => infinite (s != t)
  | finite s _, infinite t => signedZero (s != t)
  | finite s a, finite t b =>
    if b.quanta = 0 then
      if a.quanta = 0 then nan else infinite (s != t)
    else
      ofQuotient (s != t) (a.quanta * single.unit) b.quanta

instance : Add Binary32 := ⟨add⟩
instance : Sub Binary32 := ⟨sub⟩
instance : Mul Binary32 := ⟨mul⟩
instance : Div Binary32 := ⟨div⟩
instance : Neg Binary32 := ⟨neg⟩

/-- A NaN stays a NaN, and a zero keeps its sign. -/
def clamp (x low high : Binary32) : Binary32 :=
  if x.lt low then low else if high.lt x then high else x

/-- Negative numbers, both zeros and NaN become zero. -/
def atLeastZero (x : Binary32) : Binary32 :=
  if zero.lt x then x else zero

/-- The nearest integer, halves away from zero. -/
def roundToInteger : Binary32 → Binary32
  | nan => nan
  | infinite negative => infinite negative
  | finite negative a => ofQuotient negative ((2 * a.quanta + single.unit) / (2 * single.unit) * single.unit) 1

/-- The integral part as a byte, held to the byte's range; a NaN gives zero. -/
def toByte : Binary32 → UInt8
  | nan => 0
  | infinite negative => if negative then 0 else 255
  | finite negative a => if negative then 0 else UInt8.ofNat (min 255 (a.quanta / single.unit))

end Binary32

end VehicleDamage
