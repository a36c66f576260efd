import ClusterLifecycle.Text.Blank

/-!
# Natural numbers in decimal digits

`encode` writes a number without leading zeros and `decode?` reads a non-empty run of digits;
reading undoes writing (`decode?_encode`). `parse` reads a number with an optional plus sign below a
bound and says what is wrong with a text that is none; it accepts what is written of a number below
the bound (`parse_text`).
-/

namespace ClusterLifecycle.Decimal

/-- The character of a digit below ten. -/
def digitChar (d : Nat) : Char :=
  Char.ofNat (d + 48)

/-- The value of a digit. -/
def digitValue? (c : Char) : Option Nat :=
  if '0' ≤ c ∧ c ≤ '9' then some (c.toNat - 48) else none

/-- The digits of a number, without leading zeros. -/
def encode (n : Nat) : List Char :=
  if n < 10 then [digitChar n] else encode (n / 10) ++ [digitChar (n % 10)]

/-- Appends a digit to the number read so far. -/
def pushDigit (n : Nat) (c : Char) : Option Nat :=
  (digitValue? c).map (n * 10 + ·)

/-- The number that a non-empty run of digits denotes. -/
def decode? (cs : List Char) : Option Nat :=
  if cs.isEmpty then none else cs.foldlM pushDigit 0

theorem digitValue?_digitChar {d : Nat} (h : d < 10) : digitValue? (digitChar d) = some d := by
  match d, h with
  | 0, _ | 1, _ | 2, _ | 3, _ | 4, _ | 5, _ | 6, _ | 7, _ | 8, _ | 9, _ => decide

theorem encode_ne_nil (n : Nat) : encode n ≠ [] := by
  unfold encode
  split <;> simp

theorem foldlM_encode (n : Nat) : (encode n).foldlM pushDigit 0 = some n := by
  induction n using Nat.strongRecOn with
  | ind n ih =>
    unfold encode
    by_cases h : n < 10
    · simp [h, pushDigit, digitValue?_digitChar h]
    · simp only [h, if_false, List.foldlM_append, ih (n / 10) (by omega)]
      have hd : n % 10 < 10 := Nat.mod_lt _ (by omega)
      simp only [Option.bind_eq_bind, Option.bind_some, List.foldlM_cons, List.foldlM_nil,
        pushDigit, digitValue?_digitChar hd, Option.map_some, pure]
      congr 1
      omega

/-- Reading undoes writing. -/
theorem decode?_encode (n : Nat) : decode? (encode n) = some n := by
  simp [decode?, encode_ne_nil, foldlM_encode]

/-- The digits of a number as a text. -/
def text (n : Nat) : String :=
  String.ofList (encode n)

/-- The digits of an integer as a text, behind a minus sign if it is negative. -/
def intText : Int → String
  | .ofNat n => text n
  | .negSucc n => "-" ++ text (n + 1)

/-- What is wrong with a text that should be a number. -/
inductive Fault where
  /-- The text is empty. -/
  | empty
  /-- A character is no digit. -/
  | invalidDigit
  /-- The number is at least the bound. -/
  | tooLarge
deriving DecidableEq, Repr

/-- The wording of a fault. -/
def Fault.message : Fault → String
  | .empty => "cannot parse integer from empty string"
  | .invalidDigit => "invalid digit found in string"
  | .tooLarge => "number too large to fit in target type"

/-- Reads digits from the left, stopping at the first that is wrong or leaves the bound. -/
def parseDigits (bound : Nat) : Nat → List Char → Except Fault Nat
  | n, [] => .ok n
  | n, c :: cs =>
    match digitValue? c with
    | none => .error .invalidDigit
    | some d => if n * 10 + d < bound then parseDigits bound (n * 10 + d) cs else .error .tooLarge

/-- Reads a number below `bound`: digits, with or without a plus sign in front. -/
def parse (bound : Nat) (s : String) : Except Fault Nat :=
  match s.toList with
  | [] => .error .empty
  | ['+'] => .error .invalidDigit
  | '+' :: cs => parseDigits bound 0 cs
  | cs => parseDigits bound 0 cs

theorem exists_encode_eq_cons (n : Nat) : ∃ c cs, encode n = c :: cs ∧ c ≠ '+' := by
  induction n using Nat.strongRecOn with
  | ind n ih =>
    unfold encode
    by_cases h : n < 10
    · have hdigit : digitChar n ≠ '+' := by
        intro hc
        have hvalue := digitValue?_digitChar h
        have hplus : digitValue? '+' = none := by decide
        rw [hc, hplus] at hvalue
        exact absurd hvalue (by simp)
      exact ⟨digitChar n, [], by simp [h], hdigit⟩
    · obtain ⟨c, cs, hencode, hc⟩ := ih (n / 10) (by omega)
      exact ⟨c, cs ++ [digitChar (n % 10)], by simp [h, hencode], hc⟩

theorem parseDigits_encode_append {bound n : Nat} (h : n < bound) (rest : List Char) :
    parseDigits bound 0 (encode n ++ rest) = parseDigits bound n rest := by
  -- the digits are written from the left, so what is read of them never leaves the bound
  induction n using Nat.strongRecOn generalizing rest with
  | ind n ih =>
    unfold encode
    by_cases hn : n < 10
    · simp [hn, parseDigits, digitValue?_digitChar hn, h]
    · have hd : n % 10 < 10 := Nat.mod_lt _ (by omega)
      have hsum : n / 10 * 10 + n % 10 = n := by omega
      have hfirst := ih (n / 10) (by omega) (by omega) (digitChar (n % 10) :: rest)
      simp only [hn, if_false, List.append_assoc, List.singleton_append]
      simp [hfirst, parseDigits, digitValue?_digitChar hd, hsum, h]

/-- Reading a number below the bound undoes writing it. -/
theorem parse_text {bound n : Nat} (h : n < bound) : parse bound (text n) = .ok n := by
  obtain ⟨c, cs, hencode, hc⟩ := exists_encode_eq_cons n
  have hdigits : parseDigits bound 0 (c :: cs) = .ok n := by
    have happend := parseDigits_encode_append h []
    rwa [List.append_nil, hencode] at happend
  -- the first digit is no plus sign
  simp [parse, text, hencode, hc, hdigits]

end ClusterLifecycle.Decimal
