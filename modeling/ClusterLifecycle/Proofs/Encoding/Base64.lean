import ClusterLifecycle.Encoding.Base64
import Mathlib.Tactic.Common

/-!
# Base64 read back

Three bytes are four symbols, so a text consists of a head of whole groups and a last group, which
alone may be padded. The head is read group by group; the last group is complete when one, two or
three bytes are left for it.

Main statement: `decode_encode` says that every byte string is read back.
-/

namespace ClusterLifecycle.Base64

/-! ## The alphabet -/

theorem value?_symbol {n : Nat} (h : n < 64) : value? (symbol n) = some n := by
  have hall : ∀ n : Fin 64, value? (symbol n) = some n.val := by decide
  exact hall ⟨n, h⟩

theorem symbol_ne_pad {n : Nat} (h : n < 64) : symbol n ≠ pad := by
  have hall : ∀ n : Fin 64, symbol n ≠ pad := by decide
  exact hall ⟨n, h⟩

theorem values_symbol_cons {n offset : Nat} (h : n < 64) (symbols : List UInt8) :
    values offset (symbol n :: symbols) = (values (offset + 1) symbols).map (n :: ·) := by
  rw [values, value?_symbol h]

/-! ## Whole groups -/

theorem ofNat_eq_of_toNat {n : Nat} {b : UInt8} (h : n = b.toNat) : UInt8.ofNat n = b := by
  rw [h, UInt8.ofNat_toNat]

theorem length_of_cons_mod {a b c : UInt8} {rest : List UInt8}
    (h : (a :: b :: c :: rest).length % 3 = 0) : rest.length % 3 = 0 := by
  simp only [List.length_cons] at h
  omega

/-- The bits of three bytes are those of four numbers. -/
theorem pack_cons (a b c : UInt8) (numbers : List Nat) :
    pack (a.toNat / 4 :: (a.toNat % 4 * 16 + b.toNat / 16) ::
      (b.toNat % 16 * 4 + c.toNat / 64) :: c.toNat % 64 :: numbers) =
      a :: b :: c :: pack numbers := by
  have ha := a.toNat_lt
  have hb := b.toNat_lt
  have hc := c.toNat_lt
  rw [pack, ofNat_eq_of_toNat (b := a) (by omega), ofNat_eq_of_toNat (b := b) (by omega),
    ofNat_eq_of_toNat (b := c) (by omega)]

/-- Whole groups have numbers, which are packed into the bytes again. -/
theorem exists_values_encode {head : List UInt8} (h : head.length % 3 = 0) (offset : Nat) :
    ∃ numbers, values offset (encode head) = .ok numbers ∧ pack numbers = head := by
  induction head using encode.induct generalizing offset with
  | case1 => exact ⟨[], rfl, rfl⟩
  | case2 | case3 => exact absurd h (by simp)
  | case4 a b c rest ih =>
      obtain ⟨numbers, hvalues, hpack⟩ := ih (length_of_cons_mod h) (offset + 1 + 1 + 1 + 1)
      have ha := a.toNat_lt
      have hb := b.toNat_lt
      have hc := c.toNat_lt
      refine ⟨_, ?_, (pack_cons a b c numbers).trans (by rw [hpack])⟩
      rw [encode, values_symbol_cons (by omega), values_symbol_cons (by omega),
        values_symbol_cons (by omega), values_symbol_cons (by omega), hvalues]
      rfl

theorem encode_append {head : List UInt8} (h : head.length % 3 = 0) (tail : List UInt8) :
    encode (head ++ tail) = encode head ++ encode tail := by
  induction head using encode.induct with
  | case1 => rfl
  | case2 | case3 => exact absurd h (by simp)
  | case4 a b c rest ih => simp only [List.cons_append, encode, ih (length_of_cons_mod h)]

theorem length_encode_mod {head : List UInt8} (h : head.length % 3 = 0) :
    (encode head).length % 4 = 0 := by
  induction head using encode.induct with
  | case1 => rfl
  | case2 | case3 => exact absurd h (by simp)
  | case4 a b c rest ih =>
      have hrest := ih (length_of_cons_mod h)
      simp only [encode, List.length_cons]
      omega

/-! ## The last group -/

/-- The symbols of the last group end where its padding begins. -/
theorem lastGroup_append {symbols : List UInt8} (h : ∀ b ∈ symbols, b ≠ pad)
    (h2 : 2 ≤ symbols.length) (offset padding : Nat) :
    lastGroup offset (symbols ++ List.replicate padding pad) = .ok (symbols, padding) := by
  have htake : (symbols ++ List.replicate padding pad).takeWhile (· != pad) = symbols := by
    rw [List.takeWhile_append_of_pos (by simpa using h)]
    cases padding <;> simp [List.replicate_succ]
  have hdrop : (symbols ++ List.replicate padding pad).dropWhile (· != pad) =
      List.replicate padding pad := by
    rw [List.dropWhile_append_of_pos (by simpa using h)]
    cases padding <;> simp [List.replicate_succ]
  simp only [lastGroup, htake, hdrop]
  cases padding with
  | zero => rfl
  | succ padding => simp [List.replicate_succ, Nat.not_lt.2 h2]

theorem values_map_symbol {numbers : List Nat} (h : ∀ n ∈ numbers, n < 64) (offset : Nat) :
    values offset (numbers.map symbol) = .ok numbers := by
  induction numbers generalizing offset with
  | nil => rfl
  | cons n numbers ih =>
      obtain ⟨hn, hnumbers⟩ := List.forall_mem_cons.1 h
      rw [List.map_cons, values_symbol_cons hn, ih hnumbers]
      rfl

/-- A last group that is padded to four symbols and has no stray bits is read. -/
theorem decodeLast_eq {numbers : List Nat} (h : ∀ n ∈ numbers, n < 64) (padding : Nat)
    (h2 : 2 ≤ numbers.length) (hpadding : (numbers.length + padding) % 4 = 0)
    (hstray : hasStrayBits numbers = false) (offset : Nat) :
    decodeLast offset (numbers.map symbol ++ List.replicate padding pad) = .ok (pack numbers) := by
  have hsymbols : ∀ b ∈ numbers.map symbol, b ≠ pad := by
    simpa using fun n hn => symbol_ne_pad (h n hn)
  have hgroup := lastGroup_append hsymbols (by simpa using h2) offset padding
  have hcount : ¬ numbers.length < 2 := Nat.not_lt.2 h2
  simp only [decodeLast, hgroup, bind, Except.bind, values_map_symbol h, hcount, hpadding, hstray,
    if_false, ne_eq, not_true_eq_false, Bool.false_eq_true]

/-- The bytes of the last group are one, two or three. -/
def IsTail (tail : List UInt8) : Prop :=
  0 < tail.length ∧ tail.length ≤ 3

theorem length_encode_tail {tail : List UInt8} (h : IsTail tail) : (encode tail).length = 4 := by
  match tail, h with
  | [_], _ | [_, _], _ | [_, _, _], _ => rfl
  | [], h => exact absurd h.1 (by decide)
  | _ :: _ :: _ :: _ :: _, h => exact absurd h.2 (by simp)

theorem decodeLast_encode {tail : List UInt8} (h : IsTail tail) (offset : Nat) :
    decodeLast offset (encode tail) = .ok tail := by
  -- the number of bytes decides about the padding, so each has a case
  match tail, h with
  | [a], _ =>
      have ha := a.toNat_lt
      have hnumbers : ∀ n ∈ [a.toNat / 4, a.toNat % 4 * 16], n < 64 := by
        simp only [List.forall_mem_cons, List.not_mem_nil, false_implies, implies_true, and_true]
        omega
      have hread := decodeLast_eq hnumbers 2 (by simp) (by simp) (by simp [hasStrayBits]) offset
      rwa [pack, ofNat_eq_of_toNat (b := a) (by omega)] at hread
  | [a, b], _ =>
      have ha := a.toNat_lt
      have hb := b.toNat_lt
      have hnumbers : ∀ n ∈ [a.toNat / 4, a.toNat % 4 * 16 + b.toNat / 16, b.toNat % 16 * 4],
          n < 64 := by
        simp only [List.forall_mem_cons, List.not_mem_nil, false_implies, implies_true, and_true]
        omega
      have hread := decodeLast_eq hnumbers 1 (by simp) (by simp) (by simp [hasStrayBits]) offset
      rwa [pack, ofNat_eq_of_toNat (b := a) (by omega),
        ofNat_eq_of_toNat (b := b) (by omega)] at hread
  | [a, b, c], _ =>
      have ha := a.toNat_lt
      have hb := b.toNat_lt
      have hc := c.toNat_lt
      have hnumbers : ∀ n ∈ [a.toNat / 4, a.toNat % 4 * 16 + b.toNat / 16,
          b.toNat % 16 * 4 + c.toNat / 64, c.toNat % 64], n < 64 := by
        simp only [List.forall_mem_cons, List.not_mem_nil, false_implies, implies_true, and_true]
        omega
      have hread := decodeLast_eq hnumbers 0 (by simp) (by simp) rfl offset
      rwa [pack_cons] at hread
  | [], h => exact absurd h.1 (by decide)
  | _ :: _ :: _ :: _ :: _, h => exact absurd h.2 (by simp)

/-! ## Texts -/

/-- A byte string is a head of whole groups and a last group. -/
theorem exists_head_tail {bytes : List UInt8} (h : bytes ≠ []) :
    ∃ head tail, bytes = head ++ tail ∧ head.length % 3 = 0 ∧ IsTail tail := by
  have hpos := List.length_pos_iff.2 h
  refine ⟨bytes.take ((bytes.length - 1) / 3 * 3), bytes.drop ((bytes.length - 1) / 3 * 3),
    (List.take_append_drop _ _).symm, ?_, ?_, ?_⟩
  all_goals
    simp only [List.length_take, List.length_drop]
    omega

/-- Every byte string is read back from its text. -/
theorem decode_encode (bytes : List UInt8) : decode (encode bytes) = .ok bytes := by
  rcases eq_or_ne bytes [] with rfl | hne
  · rfl
  · -- the last group is read apart, as it is the only one that may be padded
    obtain ⟨head, tail, rfl, hhead, htail⟩ := exists_head_tail hne
    have hlength : (encode head ++ encode tail).length = (encode head).length + 4 := by
      rw [List.length_append, length_encode_tail htail]
    have hmod := length_encode_mod hhead
    have hoffset : lastOffset (encode head ++ encode tail).length = (encode head).length := by
      rw [hlength, lastOffset]
      omega
    obtain ⟨numbers, hvalues, hpack⟩ := exists_values_encode hhead 0
    rw [encode_append hhead]
    unfold decode
    split
    next hnil => simp [List.getLast?_eq_none_iff.1 hnil] at hlength
    next last _ =>
      have hwhole : ¬ ((encode head ++ encode tail).length % 4 = 1 ∧ last ≠ pad ∧
          (value? last).isNone = true) := by
        rw [hlength]
        omega
      simp only [hwhole, if_false, hoffset, List.take_left, List.drop_left, hvalues,
        decodeLast_encode htail]
      exact congrArg (Except.ok <| · ++ tail) hpack

end ClusterLifecycle.Base64
