import ClusterLifecycle.Encoding.Deflate
import Mathlib.Algebra.BigOperators.Group.List.Basic
import Mathlib.Algebra.Order.Group.Nat
import Mathlib.Tactic.Ring

/-!
# Canonical prefix codes

The lengths of its code words settle a code: shorter words come first, words of one length follow
one another in the order of their symbols. No word begins another one, so a word is read back
whatever follows it.

The words of one length, with all words that begin with a shorter one, fill the words of that length
from below (`firstNumber_add_count_mul_le`). The tree of a code is built by following each word
through what is still empty of it (`exists_inserted`), which succeeds because that part is out of
reach of all words inserted before.

Main statement: `exists_ofLengths?` says that lengths which use up all words have a code, and that
it reads every word.
-/

namespace ClusterLifecycle.Deflate

/-! ## Numbers in bits -/

theorem length_bitsOfNat (count n : Nat) : (bitsOfNat count n).length = count := by
  induction count generalizing n with
  | zero => rfl
  | succ count ih => simp [bitsOfNat, ih]

theorem readNat_bitsOfNat {count n : Nat} (h : n < 2 ^ count) (rest : List Bool) :
    readNat count (bitsOfNat count n ++ rest) = some (n, rest) := by
  induction count generalizing n with
  | zero =>
      obtain rfl : n = 0 := by simpa using h
      rfl
  | succ count ih =>
      have hhalf : n / 2 < 2 ^ count := by
        rw [pow_succ] at h
        omega
      have hbit : (decide (n % 2 = 1)).toNat = n % 2 := by
        rcases Nat.mod_two_eq_zero_or_one n with h0 | h1
        · simp [h0]
        · simp [h1]
      simp only [bitsOfNat, List.cons_append, readNat, ih hhalf, Option.map_some, hbit]
      congr 2
      omega

theorem bitsOfNat_inj {count n m : Nat} (hn : n < 2 ^ count) (hm : m < 2 ^ count)
    (h : bitsOfNat count n = bitsOfNat count m) : n = m := by
  have hread := readNat_bitsOfNat hn []
  rw [h, readNat_bitsOfNat hm] at hread
  simpa using hread.symm

theorem bitsOfNat_add (a b n : Nat) :
    bitsOfNat (a + b) n = bitsOfNat a n ++ bitsOfNat b (n / 2 ^ a) := by
  induction a generalizing n with
  | zero => simp [bitsOfNat]
  | succ a ih =>
      rw [Nat.add_right_comm, bitsOfNat, bitsOfNat, ih, Nat.div_div_eq_div_mul, pow_succ,
        Nat.mul_comm 2]
      rfl

namespace Code

/-! ## Words -/

theorem length_word (length n : Nat) : (word length n).length = length := by
  simp [word, length_bitsOfNat]

/-- A word begins a longer one if its number is what remains of the other without the last bits. -/
theorem eq_of_word_prefix {a b n m : Nat} (hn : n < 2 ^ a) (hm : m < 2 ^ (a + b))
    (h : word a n <+: word (a + b) m) : n = m / 2 ^ b := by
  have hsplit : word (a + b) m = word a (m / 2 ^ b) ++ word b m := by
    rw [word, Nat.add_comm a b, bitsOfNat_add, List.reverse_append]
    rfl
  have hlt : m / 2 ^ b < 2 ^ a := by
    rw [Nat.div_lt_iff_lt_mul (Nat.two_pow_pos b), ← pow_add]
    exact hm
  rw [hsplit] at h
  obtain ⟨rest, hrest⟩ := h
  have hword := (List.append_inj hrest (by simp [length_word])).1
  exact bitsOfNat_inj hn hlt (List.reverse_injective hword)

/-! ## Canonical words -/

/-- The number of the first word of a length: that of the words one bit shorter, moved on by all of
them and extended by a zero. -/
def firstNumber (lengths : List Nat) : Nat → Nat
  | 0 | 1 => 0
  | length + 2 => (firstNumber lengths (length + 1) + lengths.count (length + 1)) * 2

/-- The word is that of the symbol, in the code with words of the lengths: each symbol of a length
has the next word of that length. A symbol with length zero has none. -/
def IsWord (lengths : List Nat) (symbol : Nat) (w : List Bool) : Prop :=
  ∃ length, lengths[symbol]? = some length ∧ 0 < length ∧
    w = word length (firstNumber lengths length + (lengths.take symbol).count length)

/-- The lengths are those of a code whose words of at most fifteen bits use up all words. -/
def IsComplete (lengths : List Nat) : Prop :=
  (∀ length ∈ lengths, length ≤ 15) ∧ firstNumber lengths 16 = 2 ^ 16

/-- The lengths are those of such a code, or of one with at most one word. -/
def IsCode (lengths : List Nat) : Prop :=
  IsComplete lengths ∨ (∀ length ∈ lengths, length ≤ 15) ∧ lengths.countP (· != 0) ≤ 1

variable {lengths : List Nat} {symbol other : Nat} {w v : List Bool}

theorem firstNumber_add_count_mul_le {a b : Nat} (ha : 0 < a) :
    (firstNumber lengths a + lengths.count a) * 2 ^ (b + 1) ≤ firstNumber lengths (a + b + 1) := by
  induction b with
  | zero =>
      obtain ⟨a, rfl⟩ := Nat.exists_eq_succ_of_ne_zero ha.ne'
      exact le_rfl
  | succ b ih =>
      calc (firstNumber lengths a + lengths.count a) * 2 ^ (b + 1 + 1)
          = (firstNumber lengths a + lengths.count a) * 2 ^ (b + 1) * 2 := by
            rw [pow_succ, mul_assoc]
        _ ≤ firstNumber lengths (a + b + 1) * 2 := Nat.mul_le_mul_right 2 ih
        _ ≤ firstNumber lengths (a + (b + 1) + 1) :=
            Nat.mul_le_mul_right 2 (Nat.le_add_right _ _)

/-- The rank of a symbol among those with its length. -/
theorem count_take_lt {length : Nat} (h : lengths[symbol]? = some length) :
    (lengths.take symbol).count length < lengths.count length := by
  obtain ⟨hlt, hget⟩ := List.getElem?_eq_some_iff.1 h
  have hsplit : lengths = lengths.take symbol ++ lengths[symbol] :: lengths.drop (symbol + 1) := by
    rw [List.getElem_cons_drop, List.take_append_drop]
  conv_rhs => rw [hsplit, List.count_append, hget, List.count_cons_self]
  omega

theorem count_take_lt_of_lt {length : Nat} (h : lengths[symbol]? = some length)
    (hlt : symbol < other) :
    (lengths.take symbol).count length < (lengths.take other).count length := by
  have htake : lengths.take symbol = (lengths.take other).take symbol := by
    rw [List.take_take, Nat.min_eq_left hlt.le]
  rw [htake]
  exact count_take_lt (by rw [List.getElem?_take_of_lt hlt, h])

/-- There is room for the words of every length. -/
theorem firstNumber_add_count_le (hfits : firstNumber lengths 16 ≤ 2 ^ 16) {a : Nat} (ha : 0 < a)
    (ha' : a ≤ 15) : firstNumber lengths a + lengths.count a ≤ 2 ^ a := by
  obtain ⟨b, hb⟩ := Nat.exists_eq_add_of_le ha'
  have hroom := @firstNumber_add_count_mul_le lengths a b ha
  have hsum : a + b + 1 = 16 := by omega
  have hpow : 2 ^ 16 = 2 ^ a * 2 ^ (b + 1) := by rw [← pow_add, ← Nat.add_assoc, hsum]
  rw [hsum] at hroom
  exact Nat.le_of_mul_le_mul_right (hroom.trans (hfits.trans hpow.le)) (Nat.two_pow_pos _)

/-- No word begins that of another symbol. -/
theorem IsWord.not_prefix (h15 : ∀ length ∈ lengths, length ≤ 15)
    (hfits : firstNumber lengths 16 ≤ 2 ^ 16) (hw : IsWord lengths symbol w)
    (hv : IsWord lengths other v) (hne : symbol ≠ other) : ¬ w <+: v := by
  intro hprefix
  obtain ⟨a, ha, hpos, rfl⟩ := hw
  obtain ⟨c, hc, hpos', rfl⟩ := hv
  obtain ⟨b, rfl⟩ : ∃ b, c = a + b := by
    have hle := hprefix.length_le
    rw [length_word, length_word] at hle
    exact Nat.exists_eq_add_of_le hle
  have hrank := count_take_lt ha
  have hrank' := count_take_lt hc
  have hroom := firstNumber_add_count_le hfits hpos (h15 a (List.mem_of_getElem? ha))
  have hroom' := firstNumber_add_count_le hfits hpos' (h15 _ (List.mem_of_getElem? hc))
  have heq := eq_of_word_prefix (by omega) (by omega) hprefix
  cases b with
  | zero =>
      -- words of one length are in the order of their symbols
      simp only [Nat.add_zero, pow_zero, Nat.div_one, Nat.add_left_cancel_iff] at heq hc
      rcases Nat.lt_or_gt_of_ne hne with hlt | hlt
      · exact absurd heq (count_take_lt_of_lt ha hlt).ne
      · exact absurd heq.symm (count_take_lt_of_lt hc hlt).ne
  | succ b =>
      -- a longer word comes behind all that begin with a shorter one
      have hlonger := @firstNumber_add_count_mul_le lengths _ b hpos
      have hge : firstNumber lengths a + lengths.count a ≤
          (firstNumber lengths (a + (b + 1)) + (lengths.take other).count (a + (b + 1))) /
            2 ^ (b + 1) := by
        rw [Nat.le_div_iff_mul_le (Nat.two_pow_pos _)]
        exact hlonger.trans (Nat.le_add_right _ _)
      omega

/-! ## All words together -/

/-- How many words of length `m` begin with a shorter one of the given length. -/
def portion (m length : Nat) : Nat :=
  if 0 < length ∧ length < m then 2 ^ (m - length) else 0

theorem portion_succ (m length : Nat) :
    portion (m + 2) length = (portion (m + 1) length + if length = m + 1 then 1 else 0) * 2 := by
  rcases Nat.lt_trichotomy length (m + 1) with hlt | rfl | hgt
  · have hne : length ≠ m + 1 := by omega
    have hlt' : length < m + 2 := by omega
    have hsub : m + 2 - length = m + 1 - length + 1 := by omega
    simp only [portion, hlt, hlt', hne, hsub, and_true, if_false, Nat.add_zero, pow_succ]
    split <;> simp
  · have hsub : m + 2 - (m + 1) = 1 := by omega
    simp [portion, hsub]
  · have hne : length ≠ m + 1 := by omega
    have hlt : ¬ length < m + 1 := by omega
    have hlt' : ¬ length < m + 2 := by omega
    simp [portion, hne, hlt, hlt']

theorem sum_portion_succ (lengths : List Nat) (m : Nat) :
    (lengths.map (portion (m + 2))).sum =
      ((lengths.map (portion (m + 1))).sum + lengths.count (m + 1)) * 2 := by
  induction lengths with
  | nil => rfl
  | cons length lengths ih =>
      simp only [List.map_cons, List.sum_cons, ih, portion_succ, List.count_cons, beq_iff_eq]
      ring

theorem firstNumber_eq_sum (lengths : List Nat) (m : Nat) :
    firstNumber lengths (m + 1) = (lengths.map (portion (m + 1))).sum := by
  induction m with
  | zero =>
      have hzero : portion (0 + 1) = fun _ => 0 := by
        funext length
        simp only [portion, ite_eq_right_iff]
        omega
      simp [firstNumber, hzero]
  | succ m ih => rw [firstNumber, ih, sum_portion_succ]

theorem foldl_share (h15 : ∀ length ∈ lengths, length ≤ 15) (n : Nat) :
    lengths.foldl (fun n length => if length = 0 then n else n + 1 <<< (16 - length)) n =
      n + (lengths.map (portion 16)).sum := by
  induction lengths generalizing n with
  | nil => rfl
  | cons length lengths ih =>
      obtain ⟨hlength, hrest⟩ := List.forall_mem_cons.1 h15
      rw [List.foldl_cons, ih hrest, List.map_cons, List.sum_cons]
      by_cases hzero : length = 0
      · simp [hzero, portion]
      · have hbounds : 0 < length ∧ length < 16 := by omega
        simp [hzero, portion, hbounds, Nat.shiftLeft_eq, Nat.add_assoc]

theorem share_eq (h15 : ∀ length ∈ lengths, length ≤ 15) :
    share lengths = firstNumber lengths 16 := by
  rw [share, foldl_share h15, firstNumber_eq_sum, Nat.zero_add]

/-- A single word leaves room. -/
theorem sum_portion_le (lengths : List Nat) :
    (lengths.map (portion 16)).sum ≤ lengths.countP (· != 0) * 2 ^ 15 := by
  induction lengths with
  | nil => exact le_rfl
  | cons length lengths ih =>
      rw [List.map_cons, List.sum_cons, List.countP_cons]
      by_cases hzero : length = 0
      · simpa [hzero, portion] using ih
      · have hportion : portion 16 length ≤ 2 ^ 15 := by
          unfold portion
          split
          · exact Nat.pow_le_pow_right (by decide) (by omega)
          · exact Nat.zero_le _
        have hone : (if (length != 0) = true then 1 else 0) = 1 := by simp [hzero]
        rw [hone]
        omega

theorem IsCode.fits (h : IsCode lengths) :
    (∀ length ∈ lengths, length ≤ 15) ∧ firstNumber lengths 16 ≤ 2 ^ 16 := by
  rcases h with ⟨h15, hcomplete⟩ | ⟨h15, hused⟩
  · exact ⟨h15, hcomplete.le⟩
  · refine ⟨h15, ?_⟩
    rw [firstNumber_eq_sum]
    calc (lengths.map (portion 16)).sum
        ≤ lengths.countP (· != 0) * 2 ^ 15 := sum_portion_le lengths
      _ ≤ 1 * 2 ^ 15 := Nat.mul_le_mul_right _ hused
      _ ≤ 2 ^ 16 := by decide

/-! ## Trees -/

/-- The tree reads the word as the symbol, whatever follows. -/
def Reads (code : Code) (w : List Bool) (symbol : Nat) : Prop :=
  ∀ rest, code.read (w ++ rest) = some (symbol, rest)

/-- The word leads to a part of the tree that is still empty. -/
def Free : Code → List Bool → Prop
  | .empty, _ => True
  | .leaf _, _ | .node _ _, [] => False
  | .node zero _, false :: w => Free zero w
  | .node _ one, true :: w => Free one w

theorem insert_empty (b : Bool) (w : List Bool) (s : Nat) :
    insert (b :: w) s .empty = insert (b :: w) s (.node .empty .empty) := by
  rw [insert]

theorem not_reads_empty (s : Nat) : ¬ Code.empty.Reads w s := by
  intro h
  have hread := h []
  cases hread

theorem not_reads_node_nil (zero one : Code) (s : Nat) : ¬ (Code.node zero one).Reads [] s := by
  intro h
  have hread := h []
  cases hread

theorem reads_node_iff {zero one : Code} {b : Bool} {s : Nat} :
    (Code.node zero one).Reads (b :: w) s ↔ (if b then one else zero).Reads w s := by
  cases b <;> exact .rfl

theorem free_node_iff {zero one : Code} {b : Bool} :
    (Code.node zero one).Free (b :: w) ↔ (if b then one else zero).Free w := by
  cases b <;> exact .rfl

/-- What inserting a word changes, and what it does not. -/
structure Inserted (w : List Bool) (s : Nat) (code code' : Code) : Prop where
  inserted : insert w s code = some code'
  reads : code'.Reads w s
  keeps : ∀ v t, code.Reads v t → code'.Reads v t
  free : ∀ v, code.Free v → ¬ v <+: w → ¬ w <+: v → code'.Free v

/-- Inserting a word below a branch changes nothing below the other one. -/
theorem Inserted.node {zero one below : Code} {b : Bool} {s : Nat}
    (h : Inserted w s (if b then one else zero) below) :
    Inserted (b :: w) s (.node zero one)
      (.node (if b then zero else below) (if b then below else one)) := by
  refine ⟨?_, reads_node_iff.2 ?_, fun v t hv => ?_, fun v hv hvw hwv => ?_⟩
  · have hinserted := h.inserted
    cases b
    all_goals
      simp only [Bool.false_eq_true, if_false, if_true] at hinserted ⊢
      rw [insert, hinserted]
      rfl
  · cases b <;> exact h.reads
  -- what could be read before: below the other branch nothing changes
  · cases v with
    | nil => exact absurd hv (not_reads_node_nil zero one t)
    | cons c v =>
        have hkeeps := h.keeps v t
        rw [reads_node_iff] at hv ⊢
        cases b <;> cases c <;> first | exact hv | exact hkeeps hv
  -- what was free before: on the branch of the word, it must not lie on the way to it
  · cases v with
    | nil => exact absurd hv not_false
    | cons c v =>
        have hfree := h.free v
        rw [free_node_iff] at hv ⊢
        rw [List.cons_prefix_cons, not_and] at hvw hwv
        cases b <;> cases c <;> first | exact hv | exact hfree hv (hvw rfl) (hwv rfl)

/-- Where nothing was, there is room for every word but the empty one. -/
theorem Inserted.of_empty {code : Code} {b : Bool} {s : Nat}
    (h : Inserted (b :: w) s (.node .empty .empty) code) : Inserted (b :: w) s .empty code := by
  refine ⟨(insert_empty b w s).trans h.inserted, h.reads, fun v t hv => ?_, fun v _ hvw hwv => ?_⟩
  · exact absurd hv (not_reads_empty t)
  · cases v with
    | nil => exact absurd List.nil_prefix hvw
    | cons c v =>
        refine h.free _ (free_node_iff.2 ?_) hvw hwv
        cases c <;> trivial

/-- A word that is free can be inserted. -/
theorem exists_inserted {code : Code} (s : Nat) (h : code.Free w) :
    ∃ code', Inserted w s code code' := by
  -- down the tree along the word; an empty part becomes a branch before one goes on
  induction w generalizing code with
  | nil =>
      cases code with
      | empty =>
          exact ⟨.leaf s, by rw [insert], fun _ => rfl, fun v t hv => absurd hv (not_reads_empty t),
            fun v _ _ hv => absurd List.nil_prefix hv⟩
      | leaf | node => exact absurd h not_false
  | cons b w ih =>
      cases code with
      | empty =>
          have hfree : (if b then Code.empty else Code.empty).Free w := by
            cases b <;> trivial
          obtain ⟨below, hbelow⟩ := ih hfree
          exact ⟨_, hbelow.node.of_empty⟩
      | leaf => exact absurd h not_false
      | node zero one =>
          obtain ⟨below, hbelow⟩ := ih (free_node_iff.1 h)
          exact ⟨_, hbelow.node⟩

/-! ## Codes -/

theorem firstWords_eq (lengths : List Nat) :
    firstWords lengths = (List.range' 1 15).map (firstNumber lengths) := rfl

theorem getD_firstWords (lengths : List Nat) {length : Nat} (hpos : 0 < length) (h : length ≤ 15) :
    (firstWords lengths).getD (length - 1) 0 = firstNumber lengths length := by
  have hlt : length - 1 < 15 := by omega
  have hsum : 1 + (length - 1) = length := by omega
  rw [firstWords_eq]
  simp [List.getD_eq_getElem?_getD, hlt, hsum]

/-- The first symbols have their words in the tree, and there is room for the words of the others.
The next word of every length is known. -/
structure Assigned (lengths : List Nat) (count : Nat) (next : List Nat) (code : Code) : Prop where
  size : next.length = 15
  next : ∀ length, 0 < length → length ≤ 15 → next.getD (length - 1) 0 =
    firstNumber lengths length + (lengths.take count).count length
  reads : ∀ s < count, ∀ w, IsWord lengths s w → code.Reads w s
  free : ∀ s, count ≤ s → ∀ w, IsWord lengths s w → code.Free w

theorem count_take_succ {length : Nat} (h : lengths[symbol]? = some length) (other : Nat) :
    (lengths.take (symbol + 1)).count other =
      (lengths.take symbol).count other + if length = other then 1 else 0 := by
  rw [List.take_add_one, h, List.count_append]
  simp [List.count_cons]

/-- The next word of one length is taken, and those of the others are not. -/
theorem getD_modify {next : List Nat} {length other : Nat} (hpos : 0 < length) (hother : 0 < other)
    (hle : other ≤ next.length) :
    (next.modify (length - 1) (· + 1)).getD (other - 1) 0 =
      next.getD (other - 1) 0 + if length = other then 1 else 0 := by
  have hlt : other - 1 < next.length := by omega
  have hsame : length - 1 = other - 1 ↔ length = other := by omega
  rw [List.getD_eq_getElem?_getD, List.getD_eq_getElem?_getD, List.getElem?_modify,
    List.getElem?_eq_getElem hlt]
  by_cases h : length = other <;> simp [hsame, h]

/-- A symbol with length zero has no word. -/
theorem Assigned.skip {count : Nat} {next : List Nat} {code : Code}
    (h : Assigned lengths count next code) (hzero : lengths[count]? = some 0) :
    Assigned lengths (count + 1) next code := by
  refine ⟨h.size, fun length hpos hle => ?_, fun s hs w hw => ?_, fun s hs => h.free s (by omega)⟩
  · rw [count_take_succ hzero, if_neg hpos.ne, Nat.add_zero]
    exact h.next length hpos hle
  · rcases Nat.lt_succ_iff_lt_or_eq.1 hs with hlt | rfl
    · exact h.reads s hlt w hw
    · obtain ⟨length, hlength, hpos, -⟩ := hw
      rw [hzero] at hlength
      cases hlength
      exact absurd hpos (lt_irrefl 0)

/-- Any other symbol takes the next word of its length. -/
theorem Assigned.take {count length : Nat} {next : List Nat} {code : Code}
    (h15 : ∀ length ∈ lengths, length ≤ 15) (hfits : firstNumber lengths 16 ≤ 2 ^ 16)
    (h : Assigned lengths count next code) (hlength : lengths[count]? = some length)
    (hpos : 0 < length) :
    ∃ code', insert (word length (next.getD (length - 1) 0)) count code = some code' ∧
      Assigned lengths (count + 1) (next.modify (length - 1) (· + 1)) code' := by
  have hle := h15 length (List.mem_of_getElem? hlength)
  -- the next number of its length is the one that the word of this symbol has
  have hword : IsWord lengths count (word length (next.getD (length - 1) 0)) :=
    ⟨length, hlength, hpos, by rw [h.next length hpos hle]⟩
  obtain ⟨code', hcode⟩ := exists_inserted count (h.free count le_rfl _ hword)
  refine ⟨code', hcode.inserted, by simp [h.size], ?_, fun s hs w hw => ?_, fun s hs w hw => ?_⟩
  · intro other hother hother15
    rw [getD_modify hpos hother (by rwa [h.size]), h.next other hother hother15,
      count_take_succ hlength, Nat.add_assoc]
  -- an earlier symbol, or the one whose word was put in
  · rcases Nat.lt_succ_iff_lt_or_eq.1 hs with hlt | rfl
    · exact hcode.keeps _ _ (h.reads s hlt w hw)
    · obtain ⟨length', hlength', -, rfl⟩ := hw
      rw [hlength] at hlength'
      cases hlength'
      rw [← h.next length hpos hle]
      exact hcode.reads
  · -- no word begins another, so the places of the other words stay empty
    have hne : s ≠ count := by omega
    exact hcode.free w (h.free s (by omega) w hw) (hw.not_prefix h15 hfits hword hne)
      (hword.not_prefix h15 hfits hw hne.symm)

/-- All symbols find their places. -/
theorem Assigned.exists_assign {rest next : List Nat} {count : Nat} {code : Code}
    (h15 : ∀ length ∈ lengths, length ≤ 15) (hfits : firstNumber lengths 16 ≤ 2 ^ 16)
    (hrest : lengths.drop count = rest) (h : Assigned lengths count next code) :
    ∃ code', assign rest count next code = some code' ∧
      ∀ s w, IsWord lengths s w → code'.Reads w s := by
  -- induction on the symbols that are left; `Assigned` is what holds of those before
  induction rest generalizing count next code with
  | nil =>
      refine ⟨code, by rw [assign], fun s w hw => h.reads s ?_ w hw⟩
      obtain ⟨length, hlength, -⟩ := hw
      have hlt := (List.getElem?_eq_some_iff.1 hlength).1
      have hall := List.drop_eq_nil_iff.1 hrest
      omega
  | cons length rest ih =>
      have hlength : lengths[count]? = some length := by
        rw [← List.head?_drop, hrest]
        rfl
      have hrest' : lengths.drop (count + 1) = rest := by
        rw [← List.tail_drop, hrest]
        rfl
      unfold assign
      by_cases hzero : length = 0
      · subst hzero
        exact ih hrest' (h.skip hlength)
      · obtain ⟨code', hinsert, htake⟩ := h.take h15 hfits hlength (Nat.pos_of_ne_zero hzero)
        simp only [hzero, if_false, hinsert, Option.bind_eq_bind, Option.bind_some]
        exact ih hrest' htake

/-- Lengths that use up all words, and those of at most one word where that is allowed, have a code
which reads every word, whatever follows. -/
theorem exists_ofLengths? {complete : Bool}
    (h : IsComplete lengths ∨ complete = false ∧ IsCode lengths) :
    ∃ code, ofLengths? complete lengths = some code ∧
      ∀ s w, IsWord lengths s w → code.Reads w s := by
  have hcode : IsCode lengths := h.elim .inl (·.2)
  obtain ⟨h15, hfits⟩ := hcode.fits
  -- before the first symbol nothing is assigned, and every length starts at its first number
  have hstart : Assigned lengths 0 (firstWords lengths) .empty := by
    refine ⟨rfl, fun length hpos hle => ?_, fun s hs => absurd hs (Nat.not_lt_zero s),
      fun s _ w _ => trivial⟩
    rw [getD_firstWords lengths hpos hle]
    simp
  -- this is the check that comes before any word is put in
  have hallowed : share lengths = 1 <<< 16 ∨
      lengths.countP (· != 0) ≤ 1 ∧ (!complete) = true := by
    have hshift : 1 <<< 16 = 2 ^ 16 := by decide
    rw [share_eq h15, hshift]
    rcases h with h | ⟨rfl, h | h⟩
    · exact .inl h.2
    · exact .inl h.2
    · exact .inr ⟨h.2, rfl⟩
  obtain ⟨code, hassign, hreads⟩ := hstart.exists_assign h15 hfits rfl
  exact ⟨code, (if_pos hallowed).trans hassign, hreads⟩

end Code

end ClusterLifecycle.Deflate
