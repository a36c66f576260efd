/-!
# Punycode

The ASCII form of labels with other characters. The ASCII characters of a label come first; behind
the last hyphen stand the others in ascending order, each as the distance from the one before in a
number system whose digits have varying weights.
-/

namespace ClusterLifecycle.Url.Punycode

/-! ## Digits -/

/-- The character of a digit below 36. -/
def digitChar (d : Nat) : Char :=
  Char.ofNat (if d < 26 then d + 97 else d + 22)

/-- The value of a digit. -/
def digitValue? (c : Char) : Option Nat :=
  if 'a' ≤ c ∧ c ≤ 'z' then some (c.toNat - 97)
  else if 'A' ≤ c ∧ c ≤ 'Z' then some (c.toNat - 65)
  else if '0' ≤ c ∧ c ≤ '9' then some (c.toNat - 22)
  else none

/-- The threshold of the digit at a position (36, 72, …): a digit below it is the last one. -/
def threshold (position bias : Nat) : Nat :=
  if position ≤ bias then 1 else if bias + 26 ≤ position then 26 else position - bias

theorem one_le_threshold (position bias : Nat) : 1 ≤ threshold position bias := by
  unfold threshold
  split
  · omega
  · split <;> omega

/-! ## Bias -/

/-- Divides a distance until it is small, counting 36 for each division. -/
def shrink (distance count : Nat) : Nat × Nat :=
  if 455 < distance then shrink (distance / 35) (count + 36) else (distance, count)
termination_by distance
decreasing_by exact Nat.div_lt_self (by omega) (by omega)

/-- The bias after a distance, given how many characters there are now. -/
def adapt (distance characters : Nat) (first : Bool) : Nat :=
  let damped := if first then distance / 700 else distance / 2
  let (small, count) := shrink (damped + damped / characters) 0
  count + 36 * small / (small + 38)

/-! ## Writing -/

/-- The digits of a distance, from a position on. -/
def encodeDistance (bias position distance : Nat) : List Char :=
  let t := threshold position bias
  if distance < t then [digitChar distance]
  else
    digitChar (t + (distance - t) % (36 - t)) ::
      encodeDistance bias (position + 36) ((distance - t) / (36 - t))
termination_by distance
decreasing_by
  have h := one_le_threshold position bias
  exact Nat.lt_of_le_of_lt (Nat.div_le_self _ _) (by omega)

/-- What is known while characters are written. -/
structure Encoder where
  /-- What is written so far. -/
  written : List Char
  /-- The distance from the last place where a character was written. -/
  distance : Nat
  bias : Nat
  /-- How many characters are written. -/
  handled : Nat

/-- Walks over one character of the label while characters with the code point `point` are written;
`basics` is the number of ASCII characters. -/
def Encoder.visit (basics point : Nat) (e : Encoder) (c : Char) : Encoder :=
  if c.toNat < point then { e with distance := e.distance + 1 }
  else if c.toNat = point then
    { written := e.written ++ encodeDistance e.bias 36 e.distance
      distance := 0
      bias := adapt e.distance (e.handled + 1) (e.handled == basics)
      handled := e.handled + 1 }
  else e

/-- Writes the characters with the given code points, which ascend from `low`. -/
def Encoder.run (label : List Char) (basics : Nat) : List Nat → Nat → Encoder → Encoder
  | [], _, e => e
  | point :: points, low, e =>
    let reached := { e with distance := e.distance + (point - low) * (e.handled + 1) }
    let done := label.foldl (visit basics point) reached
    run label basics points (point + 1) { done with distance := done.distance + 1 }

/-- Inserts into an ascending list without repetitions. -/
def insertAscending (n : Nat) : List Nat → List Nat
  | [] => [n]
  | m :: rest =>
    if n < m then n :: m :: rest else if n = m then m :: rest else m :: insertAscending n rest

/-- The ASCII form of a label. -/
def encode (label : List Char) : List Char :=
  let basic := label.filter (·.toNat < 128)
  let points := (label.filter (128 ≤ ·.toNat)).foldr (fun c => insertAscending c.toNat) []
  let e := Encoder.run label basic.length points 128 ⟨[], 0, 72, basic.length⟩
  basic ++ (if basic.isEmpty then [] else ['-']) ++ e.written

/-! ## Reading -/

/-- Reads the digits of a distance, which is added to `sum`; what follows is the rest. -/
def decodeDistance? (bias : Nat) : List Char → Nat → Nat → Nat → Option (Nat × List Char)
  | [], _, _, _ => none
  | c :: rest, position, weight, sum =>
    (digitValue? c).bind fun d =>
      let t := threshold position bias
      if d < t then some (sum + d * weight, rest)
      else decodeDistance? bias rest (position + 36) (weight * (36 - t)) (sum + d * weight)

theorem length_of_decodeDistance? {bias : Nat} {cs : List Char} {position weight sum : Nat}
    {r : Nat × List Char} (h : decodeDistance? bias cs position weight sum = some r) :
    r.2.length < cs.length := by
  induction cs generalizing position weight sum with
  | nil => simp [decodeDistance?] at h
  | cons c rest ih =>
    simp only [decodeDistance?, Option.bind_eq_some_iff] at h
    obtain ⟨d, _, h⟩ := h
    split at h
    · cases h
      simp
    · exact Nat.lt_trans (ih h) (by simp)

/-- Inserts characters until the digits are used up. -/
def decodeFrom (bias point place : Nat) (label cs : List Char) : Option (List Char) :=
  if cs.isEmpty then some label
  else
    match hd : decodeDistance? bias cs 36 1 place with
    | none => none
    | some (reached, rest) =>
      let count := label.length + 1
      let point := point + reached / count
      let place' := reached % count
      if point < 0xD800 ∨ (0xDFFF < point ∧ point < 0x110000) then
        decodeFrom (adapt (reached - place) count (place == 0)) point (place' + 1)
          (label.insertIdx place' (Char.ofNat point)) rest
      else none
termination_by cs.length
decreasing_by exact length_of_decodeDistance? hd

/-- The part before the last hyphen, and the part behind it. -/
def splitLastHyphen (cs : List Char) : List Char × List Char :=
  let behind := (cs.reverse.takeWhile (· != '-')).reverse
  (cs.take (cs.length - behind.length - 1), behind)

/-- The label with a given ASCII form. -/
def decode? (cs : List Char) : Option (List Char) :=
  let (basic, digits) := splitLastHyphen cs
  if basic.all (·.toNat < 128) then decodeFrom 72 128 0 basic digits else none

end ClusterLifecycle.Url.Punycode
