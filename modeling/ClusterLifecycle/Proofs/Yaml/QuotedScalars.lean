import ClusterLifecycle.Proofs.Yaml.PlainScalars

/-!
# Quoted scalars that are written and read

Between double quotes everything but printable characters of one line is escaped, so that no line
ends inside. Between single quotes a text may have the Unicode separators, which stay what they are,
with the margin behind them passed over.

Main statements: `readQuoted_double` and `readQuoted_single` read the text back, and
`Nest.leads_double` and `Nest.leads_single` are the steps over it.
-/

namespace ClusterLifecycle.Yaml

open Printer (blanks quoted)

/-! ## Escapes -/

theorem hexText_succ (count n : Nat) :
    Printer.hexText (count + 1) n =
      Text.upperHexDigit (n >>> (4 * count) % 16) :: Printer.hexText count n := by
  simp [Printer.hexText, List.range_succ]

theorem length_hexText (count n : Nat) : (Printer.hexText count n).length = count := by
  simp [Printer.hexText]

theorem isPrintable_hexText (count n : Nat) : IsPrintable (Printer.hexText count n) := by
  have hall : ∀ d < 16, Printer.isPrintable (Text.upperHexDigit d) = true := by decide
  intro d hd
  obtain ⟨i, -, rfl⟩ := List.mem_map.1 hd
  exact hall _ (Nat.mod_lt _ (by decide))

/-- Digits to base sixteen are read behind others. -/
theorem foldlM_hexText (count n before : Nat) :
    (Printer.hexText count n).foldlM (fun m c => (Text.hexDigitValue? c).map (m * 16 + ·)) before =
      some (before * 16 ^ count + n % 16 ^ count) := by
  induction count generalizing before with
  | zero => simp [Printer.hexText]; omega
  | succ count ih =>
      have hdigit : n >>> (4 * count) % 16 < 16 := Nat.mod_lt _ (by decide)
      have hpow : 2 ^ (4 * count) = 16 ^ count := by rw [Nat.pow_mul]
      have hmod : n % 16 ^ (count + 1) = n / 16 ^ count % 16 * 16 ^ count + n % 16 ^ count := by
        rw [Nat.pow_succ, Nat.mod_mul, Nat.mul_comm (16 ^ count), Nat.add_comm]
      rw [hexText_succ, List.foldlM_cons, Text.hexDigitValue?_upperHexDigit hdigit]
      show (Printer.hexText count n).foldlM _ _ = _
      rw [ih, Nat.shiftRight_eq_div_pow, hpow, hmod, Nat.pow_succ, Nat.mul_comm (16 ^ count) 16,
        Nat.add_mul, Nat.mul_assoc, Nat.add_assoc]

theorem hexNumber?_hexText {count n : Nat} (h : n < 16 ^ count) (rest : List Char) :
    hexNumber? count (Printer.hexText count n ++ rest) = some n := by
  have htake : (Printer.hexText count n ++ rest).take count = Printer.hexText count n :=
    List.take_left' (length_hexText count n)
  rw [hexNumber?, htake]
  simp only [length_hexText, Nat.lt_irrefl, if_false, foldlM_hexText, Nat.mod_eq_of_lt h,
    Nat.zero_mul, Nat.zero_add]

theorem toNat_cases (c : Char) :
    c.toNat < 0xD800 ∨ (0xE000 ≤ c.toNat ∧ c.toNat < 0x110000) :=
  c.valid.imp id fun h => ⟨h.1, h.2⟩

theorem readEscape?_hexText {letter : Char} {count : Nat} (c : Char) (rest : List Char)
    (hletter : escapeDigits? letter = some count) (hc : c.toNat < 16 ^ count) :
    readEscape? (letter :: Printer.hexText count c.toNat ++ rest) =
      some (c, (letter :: Printer.hexText count c.toNat).length) := by
  have hvalid := toNat_cases c
  simp only [readEscape?, List.cons_append, hletter, hexNumber?_hexText hc, Option.bind_eq_bind,
    Option.bind_some, if_pos hvalid, Char.ofNat_toNat, List.length_cons, length_hexText]

/-- A character is written as itself, or as an escape that is read as the character. -/
theorem escaped_cases (c : Char) :
    Printer.escaped c = [c] ∧ Printer.isPrintable c = true ∧ Printer.isBreak c = false ∧ c ≠ '"' ∧
        c ≠ '\\' ∨
      ∃ e, Printer.escaped c = '\\' :: e ∧ IsPrintable e ∧
        ∀ rest, endsLine (e ++ rest) = false ∧ readEscape? (e ++ rest) = some (c, e.length) := by
  unfold Printer.escaped
  split
  next h =>
    simp only [Bool.and_eq_true, Bool.not_eq_true', bne_iff_ne] at h
    exact .inl ⟨rfl, h.1.1.1, h.1.1.2, h.1.2, h.2⟩
  refine .inr ?_
  dsimp only
  split
  next d letter hfind =>
    -- the character has an escape of its own
    have hmem := List.mem_of_find?_eq_some hfind
    obtain rfl : d = c := by simpa using List.find?_some hfind
    have hall : ∀ p ∈ [('\x00', '0'), ('\x07', 'a'), ('\x08', 'b'), ('\t', 't'), ('\n', 'n'),
      ('\x0b', 'v'), ('\x0c', 'f'), ('\r', 'r'), ('\x1b', 'e'), ('"', '"'), ('\\', '\\'),
      ('\u0085', 'N'), ('\u2028', 'L'), ('\u2029', 'P')],
      isBreak p.2 = false ∧ escapeDigits? p.2 = none ∧ simpleEscape? p.2 = some p.1 ∧
        Printer.isPrintable p.2 = true := by decide
    obtain ⟨hbreak, hdigits, hescape, hprintable⟩ := hall _ hmem
    refine ⟨[letter], rfl, by simpa [IsPrintable] using hprintable, fun rest => ⟨hbreak, ?_⟩⟩
    simp [readEscape?, hdigits, hescape]
  next =>
    -- its number is written, with two, four or eight digits
    have hsmall : c.toNat < 0x110000 := by
      have := toNat_cases c
      omega
    have hprintable {letter : Char} (count : Nat) (hletter : Printer.isPrintable letter = true) :
        IsPrintable (letter :: Printer.hexText count c.toNat) :=
      (isPrintable_hexText count c.toNat).cons hletter
    split
    next h => exact ⟨_, rfl, hprintable 2 (by decide), fun rest =>
        ⟨rfl, readEscape?_hexText c rest rfl (by omega)⟩⟩
    next =>
      split
      next h => exact ⟨_, rfl, hprintable 4 (by decide), fun rest =>
        ⟨rfl, readEscape?_hexText c rest rfl (by omega)⟩⟩
      next => exact ⟨_, rfl, hprintable 8 (by decide), fun rest =>
        ⟨rfl, readEscape?_hexText c rest rfl (by omega)⟩⟩

/-! ## Characters of a line -/

namespace Folding

variable {f : Folding} {c : Char} {cs : List Char}

/-- The breaks that were read stay what they are, and the blanks are not followed by one. -/
structure Fits (f : Folding) (cs : List Char) : Prop where
  broken : f.broken = true → (∃ c, f.firstBreak = some c ∧ c ≠ '\n') ∧ cs.head? ≠ some ' '
  inside : f.broken = false →
    f.laterBreaks = [] ∧ ((∃ c ∈ cs.head?, isBreak c = true) → f.blanks = [])

theorem Fits.push (f : Folding) (c : Char) (cs : List Char) : (f.push c).Fits cs where
  broken h := nomatch h
  inside _ := ⟨rfl, fun _ => rfl⟩

theorem Fits.addBlank (h : f.Fits (c :: cs)) (hf : f.broken = false)
    (hcs : ∀ d ∈ cs.head?, isBreak d = false) : (f.addBlank c).Fits cs := by
  have hadd : f.addBlank c = { f with blanks := c :: f.blanks } := by
    simp [Folding.addBlank, hf]
  rw [hadd]
  refine ⟨fun hbroken => ?_, fun _ => ⟨(h.inside hf).1, fun hnext => ?_⟩⟩
  · rw [show f.broken = true from hbroken] at hf
    cases hf
  · obtain ⟨d, hd, hbreak⟩ := hnext
    rw [hcs d hd] at hbreak
    cases hbreak

theorem Fits.addBreak (h : f.Fits (c :: cs)) (hc : c ≠ '\n') (hcs : cs.head? ≠ some ' ') :
    (f.addBreak c).Fits cs := by
  unfold Folding.addBreak
  split
  next hf =>
    refine ⟨fun _ => ⟨(h.broken hf).1, hcs⟩, fun hwhole => ?_⟩
    rw [show f.broken = false from hwhole] at hf
    cases hf
  next => exact ⟨fun _ => ⟨⟨c, rfl, hc⟩, hcs⟩, fun hwhole => nomatch hwhole⟩

theorem broken_addBreak (f : Folding) (c : Char) : (f.addBreak c).broken = true := by
  unfold Folding.addBreak
  split
  next hf => exact hf
  next => rfl

theorem join_push (f : Folding) (c : Char) : (f.push c).join.text = c :: f.join.text :=
  rfl

theorem join_addBlank (hf : f.broken = false) : (f.addBlank c).join.text = c :: f.join.text := by
  simp [Folding.addBlank, join, hf]

theorem join_addBreak (h : f.Fits (c :: cs)) (hbreak : isBreak c = true) (hc : c ≠ '\n') :
    (f.addBreak c).join.text = c :: f.join.text := by
  cases hf : f.broken with
  | false =>
      obtain ⟨hlater, hblanks⟩ := h.inside hf
      simp [Folding.addBreak, join, glue, hf, hlater, hblanks ⟨c, rfl, hbreak⟩]
  | true =>
      obtain ⟨⟨d, hd, hne⟩, -⟩ := h.broken hf
      simp [Folding.addBreak, join, glue, hf, hd]

end Folding

section

variable {double : Bool} {fuel column n : Nat} {f : Folding} {r : Reader} {c : Char}
  {rest : List Char}

theorem readQuoted_blank (h : r.At column (' ' :: rest)) :
    readQuoted double (fuel + 1) f r = readQuoted double fuel (f.addBlank ' ') (r.advance 1) := by
  have hmarker : r.atDocumentMarker = false := by
    apply Reader.atDocumentMarker_of_head h <;> simp
  rw [readQuoted, h.rest]
  simp [hmarker, isSpacing]

theorem readQuoted_break (h : r.At column (c :: rest)) (hc : isBreak c = true) :
    readQuoted double (fuel + 1) f r = readQuoted double fuel (f.addBreak c) r.nextLine := by
  have hne (d : Char) (hd : isBreak d = false) : c ≠ d := Text.ne_of_class hc hd
  have hmarker : r.atDocumentMarker = false := by
    apply Reader.atDocumentMarker_of_head h
    · simpa using hne '-' (by decide)
    · simpa using hne '.' (by decide)
  have hspacing : isSpacing c = false := by
    simp [isSpacing, hne ' ' (by decide), hne '\t' (by decide)]
  rw [readQuoted, h.rest]
  simp [hmarker, hspacing, hc]

/-- Behind a break the margin does not count. -/
theorem readQuoted_margin (h : r.At column (blanks n ++ rest)) (hf : f.broken = true) :
    readQuoted double (fuel + n) f r = readQuoted double fuel f (r.advance n) := by
  induction n generalizing column r with
  | zero => rfl
  | succ n ih =>
      have hadd : f.addBlank ' ' = f := by
        simp [Folding.addBlank, hf]
      have hat : r.At column (' ' :: (blanks n ++ rest)) := h
      rw [← Nat.add_assoc, readQuoted_blank hat, hadd, ih hat.advance_one, Reader.advance_advance,
        Nat.add_comm 1]

/-- Characters of the text that mean nothing else between quotes. -/
theorem readQuoted_char (h : r.At column (c :: rest)) (hpos : 0 < column)
    (hspacing : isSpacing c = false) (hbreak : isBreak c = false)
    (hmark : if double then c ≠ '"' ∧ c ≠ '\\' else c ≠ '\'') :
    readQuoted double (fuel + 1) f r = readQuoted double fuel (f.push c) (r.advance 1) := by
  have hmarker := Reader.atDocumentMarker_of_pos h hpos
  rw [readQuoted, h.rest]
  cases double with
  | false =>
      have hmark : c ≠ '\'' := hmark
      simp [hmarker, hspacing, hbreak, hmark]
  | true =>
      have hmark : c ≠ '"' ∧ c ≠ '\\' := hmark
      simp [hmarker, hspacing, hbreak, hmark]

end

/-! ## Double quotes -/

theorem readQuoted_escape {fuel column : Nat} {f : Folding} {r : Reader} {c : Char}
    {e rest : List Char} (h : r.At column ('\\' :: e ++ rest)) (hpos : 0 < column)
    (hline : endsLine (e ++ rest) = false)
    (hescape : readEscape? (e ++ rest) = some (c, e.length)) :
    readQuoted true (fuel + 1) f r =
      readQuoted true fuel (f.push c) (r.advance ('\\' :: e).length) := by
  have hmarker := Reader.atDocumentMarker_of_pos h hpos
  rw [readQuoted, h.rest]
  simp [hmarker, hline, hescape, isSpacing, isBreak]

/-- A character is read, whether it is escaped or not. -/
theorem readQuoted_escaped {column : Nat} {f : Folding} {r : Reader} {c : Char} {rest : List Char}
    (h : r.At column (Printer.escaped c ++ rest)) (hpos : 0 < column) (hf : f.broken = false) :
    ∃ g : Folding, g.broken = false ∧ g.join.text = c :: f.join.text ∧ ∀ fuel,
      readQuoted true (fuel + 1) f r =
        readQuoted true fuel g (r.advance (Printer.escaped c).length) := by
  rcases escaped_cases c with ⟨heq, hprintable, hbreak, hquote, hslash⟩ | ⟨e, heq, -, hescape⟩
  · rw [heq] at h ⊢
    -- a blank is held back until the next character, any other is taken at once
    by_cases hc : c = ' '
    · subst hc
      refine ⟨f.addBlank ' ', ?_, Folding.join_addBlank hf, fun fuel => readQuoted_blank h⟩
      simp [Folding.addBlank, hf]
    · have hspacing : isSpacing c = false := by
        simp [isSpacing, hc, ne_tab_of_isPrintable hprintable]
      rw [isBreak_of_isPrintable hprintable] at hbreak
      exact ⟨f.push c, rfl, Folding.join_push f c, fun fuel =>
        readQuoted_char h hpos hspacing hbreak ⟨hquote, hslash⟩⟩
  · rw [heq] at h ⊢
    obtain ⟨hline, hread⟩ := hescape rest
    exact ⟨f.push c, rfl, Folding.join_push f c, fun fuel => readQuoted_escape h hpos hline hread⟩

/-- A text between double quotes is read back, up to the closing quote. -/
theorem readQuoted_double {cs after : List Char} {fuel column : Nat} {f : Folding} {r : Reader}
    (h : r.At column (cs.flatMap Printer.escaped ++ '"' :: after)) (hpos : 0 < column)
    (hf : f.broken = false) (hfuel : (cs.flatMap Printer.escaped).length < fuel) :
    ∃ r', r'.At (column + (cs.flatMap Printer.escaped).length + 1) after ∧
      readQuoted true fuel f r = some (String.ofList (f.join.text.reverse ++ cs), r') := by
  induction cs generalizing fuel column f r with
  | nil =>
      obtain ⟨fuel, rfl⟩ := Nat.exists_eq_add_one_of_ne_zero (Nat.ne_of_gt hfuel)
      have hmarker := Reader.atDocumentMarker_of_pos h hpos
      refine ⟨r.advance 1, h.advance_one, ?_⟩
      rw [readQuoted, h.rest]
      simp [hmarker, isSpacing, isBreak, Folding.result]
  | cons c cs ih =>
      -- an escape of several characters is one step of the reader
      obtain ⟨fuel, rfl⟩ :=
        Nat.exists_eq_add_one_of_ne_zero (Nat.ne_of_gt (Nat.zero_lt_of_lt hfuel))
      have hat : r.At column
          (Printer.escaped c ++ (cs.flatMap Printer.escaped ++ '"' :: after)) := by
        simpa only [List.flatMap_cons, List.append_assoc] using h
      have hlength : ((c :: cs).flatMap Printer.escaped).length =
          (Printer.escaped c).length + (cs.flatMap Printer.escaped).length := by
        rw [List.flatMap_cons, List.length_append]
      have hne : 0 < (Printer.escaped c).length := by
        rcases escaped_cases c with ⟨heq, -⟩ | ⟨e, heq, -⟩ <;> simp [heq]
      obtain ⟨g, hg, htext, hstep⟩ := readQuoted_escaped hat hpos hf
      obtain ⟨r', hr', hread⟩ := @ih fuel _ g _ hat.advance (by omega) hg (by omega)
      refine ⟨r', ?_, ?_⟩
      · rwa [hlength, ← Nat.add_assoc]
      · rw [hstep, hread, htext]
        simp

/-! ## Single quotes -/

theorem quoted_of_ne {c : Char} (h : c ≠ '\'') : quoted c = [c] := by
  simp [quoted, h]

theorem of_hasBlankBeforeBreak {c : Char} {cs : List Char}
    (h : Printer.hasBlankBeforeBreak (c :: cs) = false) :
    (c = ' ' → ∀ d ∈ cs.head?, Printer.isBreak d = false) ∧
      Printer.hasBlankBeforeBreak cs = false := by
  cases cs with
  | nil => simp [Printer.hasBlankBeforeBreak]
  | cons d cs =>
      by_cases hc : c = ' '
      · subst hc
        simpa [Printer.hasBlankBeforeBreak] using h
      · refine ⟨fun heq => absurd heq hc, ?_⟩
        simpa [Printer.hasBlankBeforeBreak, hc] using h

theorem of_hasBreakBeforeBlank {c : Char} {cs : List Char}
    (h : Printer.hasBreakBeforeBlank (c :: cs) = false) :
    (Printer.isBreak c = true → cs.head? ≠ some ' ') ∧ Printer.hasBreakBeforeBlank cs = false := by
  cases cs with
  | nil => simp [Printer.hasBreakBeforeBlank]
  | cons d cs =>
      by_cases hd : d = ' '
      · subst hd
        simpa [Printer.hasBreakBeforeBlank] using h
      · refine ⟨fun _ => by simpa using hd, ?_⟩
        simpa [Printer.hasBreakBeforeBlank, hd] using h

/-- What stands between single quotes, and what is behind it. -/
structure IsQuotable (cs : List Char) : Prop where
  printable : IsPrintable cs
  oneLine : '\n' ∉ cs
  blanks : Printer.hasBlankBeforeBreak cs = false
  breaks : Printer.hasBreakBeforeBlank cs = false

theorem IsQuotable.tail {c : Char} {cs : List Char} (h : IsQuotable (c :: cs)) : IsQuotable cs where
  printable := (List.forall_mem_cons.1 h.printable).2
  oneLine hmem := h.oneLine (.tail c hmem)
  blanks := (of_hasBlankBeforeBreak h.blanks).2
  breaks := (of_hasBreakBeforeBlank h.breaks).2

/-! ### Margins -/

theorem moveIn_of_isBreak {c : Char} (hc : Printer.isBreak c = true) (margin : Nat) (fresh : Bool)
    (rest : List Char) :
    Printer.moveIn margin fresh (c :: rest) = c :: Printer.moveIn margin true rest := by
  rw [Printer.moveIn, if_pos hc]

theorem moveIn_of_not_isBreak {c : Char} (hc : Printer.isBreak c = false) (margin : Nat)
    (fresh : Bool) (rest : List Char) :
    Printer.moveIn margin fresh (c :: rest) =
      (if fresh then blanks margin else []) ++ c :: Printer.moveIn margin false rest := by
  rw [Printer.moveIn, if_neg (Bool.eq_false_iff.1 hc)]

theorem moveIn_quoted {c : Char} (hc : Printer.isBreak c = false) (margin : Nat) (fresh : Bool)
    (rest : List Char) :
    Printer.moveIn margin fresh (quoted c ++ rest) =
      (if fresh then blanks margin else []) ++ (quoted c ++ Printer.moveIn margin false rest) := by
  unfold quoted
  split
  next hquote =>
    obtain rfl : c = '\'' := by simpa using hquote
    simp [moveIn_of_not_isBreak hc]
  next => exact moveIn_of_not_isBreak hc margin fresh rest

/-! ### One character after the other -/

section

variable {fuel margin column : Nat} {f : Folding} {r : Reader} {c : Char} {cs rest : List Char}

/-- A character that is neither a blank nor a break. A quote is written twice. -/
theorem readQuoted_quoted (h : r.At column (quoted c ++ rest)) (hpos : 0 < column)
    (hspacing : isSpacing c = false) (hbreak : isBreak c = false) :
    readQuoted false (fuel + 1) f r =
      readQuoted false fuel (f.push c) (r.advance (quoted c).length) := by
  by_cases hc : c = '\''
  · subst hc
    have hat : r.At column ('\'' :: '\'' :: rest) := h
    have hmarker := Reader.atDocumentMarker_of_pos hat hpos
    rw [readQuoted, hat.rest]
    simp [hmarker, hspacing, hbreak, quoted]
  · rw [quoted_of_ne hc] at h ⊢
    exact readQuoted_char h hpos hspacing hbreak hc

/-- What begins a line is read behind its margin. -/
theorem readQuoted_fresh {n : Nat}
    (h : r.At column ((if f.broken then blanks margin else []) ++ rest)) (hmargin : 0 < margin)
    (hpos : f.broken = false → 0 < column)
    (hfuel : (if f.broken then blanks margin else []).length + n ≤ fuel) :
    ∃ column' r' fuel', 0 < column' ∧ r'.At column' rest ∧ n ≤ fuel' ∧
      readQuoted false fuel f r = readQuoted false fuel' f r' := by
  cases hf : f.broken with
  | false =>
      rw [hf] at h hfuel
      exact ⟨column, r, fuel, hpos hf, h, by simpa using hfuel, rfl⟩
  | true =>
      rw [hf] at h hfuel
      have hat : r.At column (blanks margin ++ rest) := h
      have hfuel : margin + n ≤ fuel := by simpa [blanks] using hfuel
      -- the margin takes as much fuel as it has blanks
      obtain ⟨more, rfl⟩ := Nat.exists_eq_add_of_le' hfuel
      refine ⟨column + margin, r.advance margin, more + n, by omega, hat.advance_blanks, by omega,
        ?_⟩
      rw [← readQuoted_margin hat hf, Nat.add_assoc, Nat.add_comm n]

end

/-- The reader has read some characters between single quotes; the others follow. -/
structure Quoting (margin : Nat) (after cs : List Char) (fuel column : Nat) (f : Folding)
    (r : Reader) : Prop where
  text : IsQuotable cs
  rest : r.At column (Printer.moveIn margin f.broken (cs.flatMap quoted ++ ['\'']) ++ after)
  inside : f.broken = false → 0 < column
  fits : f.Fits cs
  fuel_le : (Printer.moveIn margin f.broken (cs.flatMap quoted ++ ['\''])).length ≤ fuel

/-- One character more was read. -/
def ReadsOne (margin : Nat) (after : List Char) (c : Char) (cs : List Char) (fuel : Nat)
    (f : Folding) (r : Reader) : Prop :=
  ∃ fuel' column' g r', Quoting margin after cs fuel' column' g r' ∧
    g.join.text = c :: f.join.text ∧ readQuoted false fuel f r = readQuoted false fuel' g r'

namespace Quoting

variable {margin fuel column : Nat} {after cs : List Char} {c : Char} {f : Folding} {r : Reader}

/-- A break ends the line; the next one has the margin. -/
theorem readsOne_break (h : Quoting margin after (c :: cs) fuel column f r)
    (hc : isBreak c = true) : ReadsOne margin after c cs fuel f r := by
  obtain ⟨hcs, hat, -, hfits, hfuel⟩ := h
  have hbreak : Printer.isBreak c = true := isBreak_of_isPrintable (hcs.printable c (by simp)) ▸ hc
  have hquoted : quoted c = [c] := quoted_of_ne (Text.ne_of_class hc (by decide))
  have hmove : Printer.moveIn margin f.broken ((c :: cs).flatMap quoted ++ ['\'']) =
      c :: Printer.moveIn margin true (cs.flatMap quoted ++ ['\'']) := by
    rw [List.flatMap_cons, List.append_assoc, hquoted]
    exact moveIn_of_isBreak hbreak margin f.broken _
  rw [hmove] at hat hfuel
  obtain ⟨fuel, rfl⟩ := Nat.exists_eq_add_one_of_ne_zero
    (Nat.ne_of_gt (Nat.lt_of_lt_of_le (Nat.succ_pos _) hfuel))
  -- a line feed would be folded, but a text with one is not written in this form
  have hline : c ≠ '\n' := fun heq => hcs.oneLine (by simp [heq])
  have hbroken := Folding.broken_addBreak f c
  have hnext := Reader.At.nextLine hat hc
  have hless := Nat.le_of_succ_le_succ hfuel
  rw [← hbroken] at hnext hless
  exact ⟨fuel, 0, f.addBreak c, r.nextLine,
    ⟨hcs.tail, hnext, by simp [hbroken],
      hfits.addBreak hline ((of_hasBreakBeforeBlank hcs.breaks).1 hbreak), hless⟩,
    Folding.join_addBreak hfits hc hline, readQuoted_break hat hc⟩

/-- No line begins with a blank. -/
theorem readsOne_blank (h : Quoting margin after (' ' :: cs) fuel column f r) :
    ReadsOne margin after ' ' cs fuel f r := by
  obtain ⟨hcs, hat, -, hfits, hfuel⟩ := h
  -- behind a break the blank would be taken for the margin; such texts are not written this way
  have hf : f.broken = false := by
    by_contra hbroken
    exact (hfits.broken (by simpa using hbroken)).2 rfl
  have hnobreak : ∀ d ∈ cs.head?, isBreak d = false := fun d hd => by
    rw [← isBreak_of_isPrintable (hcs.printable d (.tail _ (List.mem_of_head? hd)))]
    exact (of_hasBlankBeforeBreak hcs.blanks).1 rfl d hd
  have hmove : Printer.moveIn margin f.broken ((' ' :: cs).flatMap quoted ++ ['\'']) =
      ' ' :: Printer.moveIn margin false (cs.flatMap quoted ++ ['\'']) := by
    rw [List.flatMap_cons, List.append_assoc, moveIn_quoted (by decide), hf]
    rfl
  rw [hmove] at hat hfuel
  obtain ⟨fuel, rfl⟩ := Nat.exists_eq_add_one_of_ne_zero
    (Nat.ne_of_gt (Nat.lt_of_lt_of_le (Nat.succ_pos _) hfuel))
  have hbroken : (f.addBlank ' ').broken = false := by simp [Folding.addBlank, hf]
  have hnext := Reader.At.advance_one hat
  have hless := Nat.le_of_succ_le_succ hfuel
  rw [← hbroken] at hnext hless
  exact ⟨fuel, column + 1, f.addBlank ' ', r.advance 1,
    ⟨hcs.tail, hnext, fun _ => Nat.succ_pos column, hfits.addBlank hf hnobreak, hless⟩,
    Folding.join_addBlank hf, readQuoted_blank hat⟩

/-- Other characters are read behind the margin, if they begin a line. -/
theorem readsOne_char (h : Quoting margin after (c :: cs) fuel column f r) (hmargin : 0 < margin)
    (hspacing : isSpacing c = false) (hbreak : isBreak c = false) :
    ReadsOne margin after c cs fuel f r := by
  obtain ⟨hcs, hat, hpos, -, hfuel⟩ := h
  have hbreak' : Printer.isBreak c = false :=
    isBreak_of_isPrintable (hcs.printable c (by simp)) ▸ hbreak
  rw [List.flatMap_cons, List.append_assoc, moveIn_quoted hbreak'] at hat hfuel
  rw [List.append_assoc, List.append_assoc] at hat
  rw [List.length_append] at hfuel
  obtain ⟨column', r', fuel', hpos', hr', hfuel', hskip⟩ := readQuoted_fresh hat hmargin hpos hfuel
  -- a quote is doubled, every other character is one
  have hquoted : 0 < (quoted c).length := by
    unfold quoted
    split <;> simp
  rw [List.length_append] at hfuel'
  obtain ⟨fuel', rfl⟩ := Nat.exists_eq_add_one_of_ne_zero (show fuel' ≠ 0 by omega)
  have hless : (Printer.moveIn margin false (cs.flatMap quoted ++ ['\''])).length ≤ fuel' := by
    omega
  exact ⟨fuel', _, f.push c, _,
    ⟨hcs.tail, hr'.advance, fun _ => by omega, .push f c cs, hless⟩, Folding.join_push f c,
    hskip.trans (readQuoted_quoted hr' hpos' hspacing hbreak)⟩

/-- Whatever the next character is, it is read. -/
theorem readsOne (h : Quoting margin after (c :: cs) fuel column f r) (hmargin : 0 < margin) :
    ReadsOne margin after c cs fuel f r := by
  cases hbreak : isBreak c with
  | true => exact h.readsOne_break hbreak
  | false =>
      by_cases hspace : c = ' '
      · subst hspace
        exact h.readsOne_blank
      · have htab := ne_tab_of_isPrintable (h.text.printable c (by simp))
        exact h.readsOne_char hmargin (by simp [isSpacing, hspace, htab]) hbreak

theorem close (h : Quoting margin after [] fuel column f r) (hmargin : 0 < margin)
    (hafter : after.head? ≠ some '\'') :
    ∃ column' r', r'.At column' after ∧
      readQuoted false fuel f r = some (String.ofList f.join.text.reverse, r') := by
  obtain ⟨-, hat, hpos, -, hfuel⟩ := h
  have hquote : Printer.moveIn margin f.broken ['\''] =
      (if f.broken then blanks margin else []) ++ ['\''] :=
    moveIn_of_not_isBreak (by decide) margin f.broken []
  rw [List.flatMap_nil, List.nil_append, hquote] at hat hfuel
  rw [List.append_assoc] at hat
  rw [List.length_append] at hfuel
  obtain ⟨column', r', fuel', hpos', hr', hfuel', hskip⟩ := readQuoted_fresh hat hmargin hpos hfuel
  obtain ⟨fuel', rfl⟩ := Nat.exists_eq_add_one_of_ne_zero (Nat.ne_of_gt hfuel')
  have hmarker := Reader.atDocumentMarker_of_pos hr' hpos'
  refine ⟨column' + 1, r'.advance 1, Reader.At.advance_one hr', ?_⟩
  rw [hskip, readQuoted, hr'.rest]
  simp [hmarker, isSpacing, isBreak, hafter, Folding.result]

end Quoting

/-- A text between single quotes is read back, up to the closing quote. -/
theorem readQuoted_single {cs after : List Char} {margin fuel column : Nat} {f : Folding}
    {r : Reader} (h : Quoting margin after cs fuel column f r) (hmargin : 0 < margin)
    (hafter : after.head? ≠ some '\'') :
    ∃ column' r', r'.At column' after ∧
      readQuoted false fuel f r = some (String.ofList (f.join.text.reverse ++ cs), r') := by
  induction cs generalizing fuel column f r with
  | nil => simpa using h.close hmargin hafter
  | cons c cs ih =>
      obtain ⟨fuel', column', g, r', hnext, htext, hread⟩ := h.readsOne hmargin
      obtain ⟨column'', r'', hr'', hrest⟩ := ih hnext
      refine ⟨column'', r'', hr'', ?_⟩
      rw [hread, hrest, htext]
      simp

namespace Nest

variable {b : Nest} {r : Reader} {column n margin : Nat} {s : String} {rest : List Char}

/-- A text between quotes, and the end of its line. -/
theorem leads_quoted {mark : Char} {body : List Char} {style : Style} {column' : Nat} {r' : Reader}
    (h : r.At column (mark :: body))
    (hmark : mark = '\'' ∧ style = .singleQuoted ∨ mark = '"' ∧ style = .doubleQuoted)
    (hread : readQuoted (style == .doubleQuoted) (body.length + 1) {} (r.advance 1) = some (s, r'))
    (hr' : r'.At column' ('\n' :: (blanks n ++ rest))) (hrest : Begins rest)
    (hless : rest.length ≤ body.length) (hcolumn : 0 < column) :
    ∃ r'', r''.At n rest ∧ (b.scanner r false).Leads
      (((b.push (.scalar style s)).close n).scanner r'' true) := by
  have hmarker := Reader.atDocumentMarker_of_pos h hcolumn
  have hmarkers : r.atMarker '-' = false ∧ r.atMarker '.' = false := by
    simpa [Reader.atDocumentMarker] using hmarker
  -- the mark decides about the token, and the reader stops at the break behind it
  have hscan : (b.scanner r false).scanToken mark body =
      some ((b.push (.scalar style s)).scanner r' false) := by
    have hquoted : (b.scanner r false).scanToken mark body =
        (b.scanner r false).quotedScalar style := by
      obtain ⟨rfl, rfl⟩ | ⟨rfl, rfl⟩ := hmark <;>
        simp [Scanner.scanToken, scanner, Scanner.inFlow, hmarkers]
    rw [← Reader.At.rest h.advance_one] at hread
    rw [hquoted]
    show (readQuoted (style == .doubleQuoted) ((r.advance 1).rest.length + 1) {}
      (r.advance 1)).bind _ = _
    rw [hread]
    rfl
  have hnext : ((b.push (.scalar style s)).scanner r' false).toToken =
      some (((b.push (.scalar style s)).close n).scanner (r'.nextLine.advance n) true) :=
    toToken_break hr' (by decide) hrest
  have hat : (r'.nextLine.advance n).At n rest := by
    simpa using (hr'.nextLine (by decide)).advance_blanks
  refine ⟨_, hat, Scanner.leads_of_step h.rest hscan hnext ?_⟩
  show (r'.nextLine.advance n).rest.length ≤ _
  rw [hat.rest]
  exact hless

theorem leads_double (h : r.At column (Printer.doubleQuoted s.toList ++ '\n' :: (blanks n ++ rest)))
    (hrest : Begins rest) (hcolumn : 0 < column) :
    ∃ r', r'.At n rest ∧ (b.scanner r false).Leads
      (((b.push (.scalar .doubleQuoted s)).close n).scanner r' true) := by
  have hbody : Printer.doubleQuoted s.toList ++ '\n' :: (blanks n ++ rest) =
      '"' :: (s.toList.flatMap Printer.escaped ++ '"' :: '\n' :: (blanks n ++ rest)) := by
    simp [Printer.doubleQuoted]
  have hlength : (s.toList.flatMap Printer.escaped).length ≤
      (s.toList.flatMap Printer.escaped ++ '"' :: '\n' :: (blanks n ++ rest)).length := by
    rw [List.length_append]
    exact Nat.le_add_right _ _
  rw [hbody] at h
  obtain ⟨r', hr', hread⟩ := @readQuoted_double s.toList _ _ _ {} _ h.advance_one
    (Nat.succ_pos column) rfl (Nat.lt_succ_of_le hlength)
  refine leads_quoted h (.inr ⟨rfl, rfl⟩) ?_ hr' hrest ?_ hcolumn
  · refine hread.trans ?_
    simp [Folding.join]
  · simp only [List.length_append, List.length_cons]
    omega

theorem leads_single (hform : Printer.formOf false s = .single)
    (h : r.At column
      (Printer.moveIn margin false (Printer.singleQuoted s.toList) ++ '\n' :: (blanks n ++ rest)))
    (hrest : Begins rest) (hmargin : 0 < margin) (hcolumn : 0 < column) :
    ∃ r', r'.At n rest ∧ (b.scanner r false).Leads
      (((b.push (.scalar .singleQuoted s)).close n).scanner r' true) := by
  obtain ⟨hline, hbreaks, hescapes⟩ := formOf_single hform
  obtain ⟨hprintable, hblanks⟩ := of_needsEscapes hescapes
  have hbody : Printer.moveIn margin false (Printer.singleQuoted s.toList) ++
      '\n' :: (blanks n ++ rest) =
      '\'' :: (Printer.moveIn margin false (s.toList.flatMap quoted ++ ['\'']) ++
        '\n' :: (blanks n ++ rest)) := by
    rw [Printer.singleQuoted, List.cons_append, moveIn_of_not_isBreak (by decide)]
    rfl
  have hlength : (Printer.moveIn margin false (s.toList.flatMap quoted ++ ['\''])).length ≤
      (Printer.moveIn margin false (s.toList.flatMap quoted ++ ['\'']) ++
        '\n' :: (blanks n ++ rest)).length := by
    rw [List.length_append]
    exact Nat.le_add_right _ _
  rw [hbody] at h
  obtain ⟨column', r', hr', hread⟩ := @readQuoted_single s.toList _ margin _ _ {} _
    ⟨⟨hprintable, hline, hblanks, hbreaks⟩, h.advance_one, fun _ => Nat.succ_pos column,
      ⟨fun h => (nomatch h), fun _ => ⟨rfl, fun _ => rfl⟩⟩, Nat.le_succ_of_le hlength⟩
    hmargin (by simp)
  refine leads_quoted h (.inl ⟨rfl, rfl⟩) ?_ hr' hrest ?_ hcolumn
  · refine hread.trans ?_
    simp [Folding.join]
  · simp only [List.length_append, List.length_cons]
    omega

end Nest

end ClusterLifecycle.Yaml
