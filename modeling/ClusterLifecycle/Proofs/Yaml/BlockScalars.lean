import ClusterLifecycle.Proofs.Yaml.QuotedScalars

/-!
# Literal blocks that are written and read

A text of several lines stands in a block, moved in behind its margin. The header tells whether the
end of the last line belongs to the text, and how far the block is moved in where the first line
does not show it.

Main statement: `Nest.leads_literal` is the step over a block.
-/

namespace ClusterLifecycle.Yaml

open Printer (blanks)

/-! ## The header -/

theorem readBlockHeader_eq {r : Reader} {column : Nat} {hint ending rest : List Char}
    {given : Option Nat} {chomping : Chomping}
    (hhint : hint = [] ∧ given = none ∨ hint = ['2'] ∧ given = some 2)
    (hending : ending = [] ∧ chomping = .clip ∨ ending = ['-'] ∧ chomping = .strip ∨
      ending = ['+'] ∧ chomping = .keep)
    (h : r.At column (hint ++ (ending ++ '\n' :: rest))) :
    ∃ column' r', r'.At column' ('\n' :: rest) ∧
      readBlockHeader r = some ((chomping, given), r') := by
  refine ⟨column + hint.length + ending.length, _, h.advance.advance, ?_⟩
  obtain ⟨_, index, column, line⟩ := r
  obtain ⟨rfl, rfl⟩ := h
  obtain ⟨rfl, rfl⟩ | ⟨rfl, rfl⟩ := hhint <;>
    obtain ⟨rfl, rfl⟩ | ⟨rfl, rfl⟩ | ⟨rfl, rfl⟩ := hending <;> rfl

theorem Reader.At.finishLine {r : Reader} {column : Nat} {rest : List Char}
    (h : r.At column ('\n' :: rest)) : r.finishLine? = some r.nextLine := by
  have hskip : r.skip isSpacing = r := by
    have hat : r.At column ([] ++ '\n' :: rest) := h
    rw [hat.skip (by simp) (by simp [isSpacing])]
    rfl
  have hcomment : r.skipComment = r := by
    unfold Reader.skipComment
    rw [h.rest]
    rfl
  rw [Reader.finishLine?, hskip, hcomment, h.rest]
  rfl

/-! ## Margins -/

section

variable {r : Reader} {margin n : Nat} {rest : List Char}

theorem takeWhile_blanks (hrest : rest.head? ≠ some ' ') :
    ((blanks n ++ rest).takeWhile (· == ' ')) = blanks n := by
  rw [List.takeWhile_append_of_pos fun c hc => by simp [mem_blanks hc]]
  cases rest with
  | nil => simp
  | cons c rest =>
      have hc : c ≠ ' ' := by simpa using hrest
      simp [hc]

/-- Without a known margin all blanks belong to it. -/
theorem skipIndentation_all (h : r.At 0 (blanks n ++ rest)) (hrest : rest.head? ≠ some ' ') :
    skipIndentation none r = r.advance n := by
  have hlength : (blanks n).length = n := List.length_replicate
  rw [skipIndentation, h.rest, takeWhile_blanks hrest, hlength]

theorem skipIndentation_margin (h : r.At 0 (blanks margin ++ rest)) :
    skipIndentation (some margin) r = r.advance margin := by
  have hlength : margin ≤ ((blanks margin ++ rest).takeWhile (· == ' ')).length := by
    rw [List.takeWhile_append_of_pos fun c hc => by simp [mem_blanks hc], List.length_append]
    simp [blanks]
  rw [skipIndentation, h.rest, h.column, Nat.sub_zero]
  simp only [Nat.min_eq_right hlength]

theorem skipIndentation_less (h : r.At 0 (blanks n ++ rest)) (hrest : rest.head? ≠ some ' ')
    (hn : n ≤ margin) : skipIndentation (some margin) r = r.advance n := by
  have hlength : (blanks n).length = n := List.length_replicate
  rw [skipIndentation, h.rest, h.column, takeWhile_blanks hrest, hlength, Nat.sub_zero]
  simp only [Nat.min_eq_left hn]

end

/-- What is behind the empty lines: the next line of the block, behind its margin, or what follows
the block. -/
def IsBehind (margin n : Nat) (cs rest : List Char) (r : Reader) : Prop :=
  cs = [] ∧ r.At n rest ∨
    ∃ c more, cs = c :: more ∧ isBreak c = false ∧
      r.At margin (Printer.moveIn margin false cs ++ (blanks n ++ rest))

section

variable {margin n fuel deepest : Nat} {indent : Option Nat} {r s : Reader}
  {cs breaks rest : List Char}

theorem readEmptyLines_stop (hskip : skipIndentation indent r = s)
    (hs : ∀ c ∈ s.rest.head?, c ≠ '\t' ∧ isBreak c = false) :
    readEmptyLines indent (fuel + 1) breaks deepest r =
      some ((breaks, max deepest s.column), s) := by
  rw [readEmptyLines, hskip]
  split
  next c more hmore =>
    obtain ⟨htab, hbreak⟩ := hs c (by simp [hmore])
    simp [htab, hbreak]
  next => rfl

/-- Where no empty line is left, the next line begins behind its margin. -/
theorem readEmptyLines_line {c : Char} (hc : Printer.isPrintable c = true)
    (hbreak : isBreak c = false)
    (h : r.At 0 (Printer.moveIn margin true (c :: cs) ++ (blanks n ++ rest)))
    (hskip : r.At 0 (blanks margin ++ c :: (Printer.moveIn margin false cs ++ (blanks n ++ rest))) →
      skipIndentation indent r = r.advance margin) :
    IsBehind margin n (c :: cs) rest (r.advance margin) ∧
      readEmptyLines indent (fuel + 1) breaks deepest r =
        some ((breaks, max deepest margin), r.advance margin) := by
  have hinLine : Printer.isBreak c = false := (isBreak_of_isPrintable hc).trans hbreak
  have hat : r.At 0
      (blanks margin ++ c :: (Printer.moveIn margin false cs ++ (blanks n ++ rest))) := by
    rw [moveIn_of_not_isBreak hinLine] at h
    simpa using h
  have hnext : (r.advance margin).At margin
      (c :: (Printer.moveIn margin false cs ++ (blanks n ++ rest))) := by
    simpa using hat.advance_blanks
  -- the line is not empty, so the reader stops in front of it
  constructor
  · refine .inr ⟨c, cs, rfl, hbreak, ?_⟩
    rw [moveIn_of_not_isBreak hinLine]
    exact hnext
  · rw [readEmptyLines_stop (hskip hat) fun d hd => ?_, hnext.column]
    rw [hnext.rest] at hd
    obtain rfl : c = d := by simpa using hd
    exact ⟨ne_tab_of_isPrintable hc, hbreak⟩

/-- Empty lines are read up to the next line of the block, or to what follows the block. -/
theorem readEmptyLines_eq (hprintable : IsPrintable cs)
    (h : r.At 0 (Printer.moveIn margin true cs ++ (blanks n ++ rest))) (hrest : Begins rest)
    (hn : n ≤ margin) (hfuel : cs.length < fuel) :
    ∃ empty more deepest' r', cs = empty ++ more ∧ (∀ c ∈ empty, isBreak c = true) ∧
      IsBehind margin n more rest r' ∧
      readEmptyLines (some margin) fuel breaks deepest r =
        some ((empty.reverse ++ breaks, deepest'), r') := by
  induction cs generalizing fuel breaks deepest r with
  | nil =>
      obtain ⟨fuel, rfl⟩ := Nat.exists_eq_add_one_of_ne_zero (Nat.ne_of_gt hfuel)
      have hat : r.At 0 (blanks n ++ rest) := h
      have hhead : rest.head? ≠ some ' ' := fun hspace => absurd (hrest ' ' hspace).1 (by decide)
      have hnext : (r.advance n).At n rest := by simpa using hat.advance_blanks
      refine ⟨[], [], _, r.advance n, rfl, by simp, .inl ⟨rfl, hnext⟩,
        readEmptyLines_stop (skipIndentation_less hat hhead hn) fun c hc => ?_⟩
      rw [hnext.rest] at hc
      obtain ⟨hspacing, hbreak, -⟩ := hrest c hc
      exact ⟨(by simpa [isSpacing] using hspacing : _ ∧ c ≠ '\t').2, hbreak⟩
  | cons c cs ih =>
      obtain ⟨fuel, rfl⟩ :=
        Nat.exists_eq_add_one_of_ne_zero (Nat.ne_of_gt (Nat.zero_lt_of_lt hfuel))
      obtain ⟨hc, hcs⟩ := List.forall_mem_cons.1 hprintable
      cases hbreak : isBreak c with
      | true =>
          -- an empty line has no margin
          rw [moveIn_of_isBreak ((isBreak_of_isPrintable hc).trans hbreak)] at h
          have hat : r.At 0
              (blanks 0 ++ c :: (Printer.moveIn margin true cs ++ (blanks n ++ rest))) := h
          have hhead : c ≠ ' ' ∧ c ≠ '\t' := by
            constructor <;> (rintro rfl; exact absurd hbreak (by decide))
          have hskip : skipIndentation (some margin) r = r :=
            skipIndentation_less hat (by simpa using hhead.1) (Nat.zero_le margin)
          obtain ⟨empty, more, deepest', r', rfl, hempty, hr', hread⟩ :=
            @ih fuel (max deepest r.column) _ (c :: breaks) hcs (Reader.At.nextLine hat hbreak)
              (Nat.lt_of_succ_lt_succ hfuel)
          refine ⟨c :: empty, more, deepest', r', rfl, by simpa [hbreak] using hempty, hr', ?_⟩
          rw [readEmptyLines, hskip, hat.rest]
          simp only [blanks, List.replicate_zero, List.nil_append, hbreak,
            beq_eq_false_iff_ne.2 hhead.2, Bool.false_and, Bool.false_eq_true, if_false, if_true]
          rw [hread]
          simp
      | false =>
          obtain ⟨hbehind, hread⟩ :=
            readEmptyLines_line hc hbreak h fun hat => skipIndentation_margin hat
          exact ⟨[], c :: cs, _, r.advance margin, rfl, by simp, hbehind, hread⟩

/-- The first lines of a block show its margin, if it is not known. -/
theorem readEmptyLines_first (hne : cs ≠ [])
    (hindent : indent = some margin ∨
      indent = none ∧ ∀ c ∈ cs.head?, c ≠ ' ' ∧ isBreak c = false)
    (hprintable : IsPrintable cs)
    (h : r.At 0 (Printer.moveIn margin true cs ++ (blanks n ++ rest))) (hrest : Begins rest)
    (hn : n ≤ margin) (hfuel : cs.length < fuel) :
    ∃ empty more deepest r', cs = empty ++ more ∧ (∀ c ∈ empty, isBreak c = true) ∧
      IsBehind margin n more rest r' ∧
      readEmptyLines indent fuel [] 0 r = some ((empty.reverse, deepest), r') ∧
      (indent = none → deepest = margin) := by
  rcases hindent with rfl | ⟨rfl, hhead⟩
  · obtain ⟨empty, more, deepest, r', hcs, hempty, hr', hread⟩ :=
      readEmptyLines_eq hprintable h hrest hn hfuel
    rw [List.append_nil] at hread
    exact ⟨empty, more, deepest, r', hcs, hempty, hr', hread, by simp⟩
  · obtain ⟨c, cs, rfl⟩ := List.exists_cons_of_ne_nil hne
    obtain ⟨fuel, rfl⟩ := Nat.exists_eq_add_one_of_ne_zero (Nat.ne_of_gt (Nat.zero_lt_of_lt hfuel))
    obtain ⟨hspace, hbreak⟩ := hhead c rfl
    -- all blanks of the first line are its margin, as it begins with none of its own
    obtain ⟨hbehind, hread⟩ := readEmptyLines_line (hprintable c (by simp)) hbreak h fun hat =>
      skipIndentation_all hat (by simpa using hspace)
    exact ⟨[], c :: cs, _, r.advance margin, rfl, by simp, hbehind, hread,
      fun _ => Nat.zero_max margin⟩

end

/-! ## Lines -/

/-- Lines of a block: the last one has its end. -/
structure IsBody (cs : List Char) : Prop where
  printable : IsPrintable cs
  last : ∀ d ∈ cs.getLast?, isBreak d = true

theorem IsBody.suffix {lines more : List Char} (h : IsBody (lines ++ more)) : IsBody more where
  printable c hc := h.printable c (List.mem_append_right lines hc)
  last d hd := h.last d (by
    rw [List.getLast?_append_of_ne_nil]
    · exact hd
    · rintro rfl
      cases hd)

theorem exists_firstLine {cs : List Char} (hne : cs ≠ [])
    (h : ∀ d ∈ cs.getLast?, isBreak d = true) :
    ∃ line d more, cs = line ++ d :: more ∧ (∀ c ∈ line, isBreak c = false) ∧ isBreak d = true := by
  obtain ⟨line, after, rfl, hline, hafter⟩ := exists_line cs
  cases after with
  | nil =>
      -- the last character would not be a break
      rw [List.append_nil] at hne h
      have hbreak := h _ (List.getLast?_eq_some_getLast hne)
      rw [hline _ (List.getLast_mem hne)] at hbreak
      cases hbreak
  | cons d more => exact ⟨line, d, more, rfl, hline, hafter⟩

theorem moveIn_line {line more : List Char} {d : Char} (margin : Nat)
    (hprintable : IsPrintable (line ++ d :: more)) (hline : ∀ c ∈ line, isBreak c = false)
    (hd : isBreak d = true) :
    Printer.moveIn margin false (line ++ d :: more) =
      line ++ d :: Printer.moveIn margin true more := by
  induction line with
  | nil =>
      exact moveIn_of_isBreak ((isBreak_of_isPrintable (hprintable d (by simp))).trans hd) ..
  | cons c line ih =>
      obtain ⟨hc, hrest⟩ := List.forall_mem_cons.1 hprintable
      obtain ⟨hbreak, hline⟩ := List.forall_mem_cons.1 hline
      rw [List.cons_append, moveIn_of_not_isBreak ((isBreak_of_isPrintable hc).trans hbreak),
        ih hrest hline]
      rfl

theorem length_le_moveIn (margin : Nat) (fresh : Bool) (cs : List Char) :
    cs.length ≤ (Printer.moveIn margin fresh cs).length := by
  induction cs generalizing fresh with
  | nil => exact Nat.zero_le _
  | cons c cs ih =>
      have hfalse := ih false
      have htrue := ih true
      rw [Printer.moveIn]
      split <;> simp <;> omega

theorem IsBehind.length_le {margin n : Nat} {cs rest : List Char} {r : Reader}
    (h : IsBehind margin n cs rest r) : cs.length ≤ r.rest.length := by
  rcases h with ⟨rfl, -⟩ | ⟨c, more, -, -, hat⟩
  · exact Nat.zero_le _
  · rw [hat.rest, List.length_append]
    exact Nat.le_trans (length_le_moveIn margin false cs) (Nat.le_add_right _ _)

namespace Block

/-- All characters that were read, the latest first. -/
def whole (b : Block) : List Char :=
  b.emptyLines ++ (b.lastBreak.toList ++ b.text)

/-- The last line that was read is not empty, and only empty lines follow it. -/
structure EndsLine (b : Block) : Prop where
  text : ∃ c more, b.text = c :: more ∧ isBreak c = false
  lastBreak : ∃ d, b.lastBreak = some d ∧ isBreak d = true
  emptyLines : ∀ c ∈ b.emptyLines, isBreak c = true

theorem beginLine_literal (b : Block) (blank : Bool) : b.beginLine true blank = b.whole := by
  simp [beginLine, whole]

end Block

section

variable {b : Block} {c : Char} {cs rest : List Char} {margin n fuel : Nat} {r : Reader}

/-- A line that is not empty is read with the empty lines behind it. -/
theorem readBlockLines_line (hcs : IsBody (c :: cs)) (hc : isBreak c = false)
    (h : r.At margin (Printer.moveIn margin false (c :: cs) ++ (blanks n ++ rest)))
    (hrest : Begins rest) (hn : n ≤ margin) :
    ∃ lines more next r', c :: cs = lines ++ more ∧ lines ≠ [] ∧ IsBehind margin n more rest r' ∧
      next.EndsLine ∧ next.whole = lines.reverse ++ b.whole ∧ ∀ fuel,
        readBlockLines true margin (fuel + 1) b r = readBlockLines true margin fuel next r' := by
  obtain ⟨line, d, later, heq, hline, hd⟩ := exists_firstLine (List.cons_ne_nil c cs) hcs.last
  have hprintable := hcs.printable
  rw [heq] at h hprintable
  rw [moveIn_line margin hprintable hline hd, List.append_assoc] at h
  have hspan : r.span (!isBreak ·) = (line, r.advance line.length) :=
    h.span (fun c hc => by simp [hline c hc]) (fun c hc => by
      obtain rfl : d = c := by simpa using hc
      simp [hd])
  have hafter := h.advance
  -- the margins make the text only longer, so the fuel suffices
  have hshort : later.length < (r.advance line.length).rest.length + 1 := by
    have := length_le_moveIn margin true later
    rw [hafter.rest]
    simp only [List.length_append, List.length_cons]
    omega
  obtain ⟨empty, more, deepest, r', rfl, hempty, hr', hread⟩ :=
    @readEmptyLines_eq margin n _ 0 _ later [] rest (fun c hc => hprintable c (by simp [hc]))
      (Reader.At.nextLine hafter hd) hrest hn hshort
  -- the first character is no break, so the line has characters
  have hnonempty : line ≠ [] := by
    rintro rfl
    obtain ⟨rfl, -⟩ := List.cons.inj heq
    exact absurd (hc.symm.trans hd) (by decide)
  -- the block with the line, the break behind it and the empty lines behind that
  let next : Block :=
    ⟨line.reverse ++ b.whole, some d, empty.reverse, r.rest.head?.any isSpacing⟩
  refine ⟨line ++ d :: empty, more, next, r', by simpa using heq, by simp, hr', ?_, ?_,
    fun fuel => ?_⟩
  · refine ⟨?_, ⟨d, rfl, hd⟩, by simpa [next] using hempty⟩
    obtain ⟨e, more, hline'⟩ := List.exists_cons_of_ne_nil (List.reverse_ne_nil_iff.2 hnonempty)
    refine ⟨e, more ++ b.whole, by simp [next, hline'], hline e ?_⟩
    rw [← List.mem_reverse, hline']
    exact List.mem_cons_self
  · simp [next, Block.whole]
  · have hopen : (r.column == margin && !r.rest.isEmpty) = true := by
      rw [h.column, h.rest]
      simp
    rw [List.append_nil] at hread
    rw [readBlockLines]
    simp only [hopen, if_true, hspan, Block.beginLine_literal, hread, Option.bind_eq_bind,
      Option.bind_some]
    rw [hafter.rest]
    rfl

/-- The lines of a block are read up to what follows it. -/
theorem readBlockLines_eq (hcs : IsBody cs) (h : IsBehind margin n cs rest r) (hrest : Begins rest)
    (hn : n < margin) (hfuel : cs.length < fuel) :
    ∃ b' r', r'.At n rest ∧ readBlockLines true margin fuel b r = some (b', r') ∧
      b'.whole = cs.reverse ++ b.whole ∧ (cs ≠ [] ∨ b.EndsLine → b'.EndsLine) := by
  -- induction on the length of what is left, which gets shorter by a line and the empty ones
  induction hlength : cs.length using Nat.strongRecOn generalizing cs b r fuel with
  | ind length ih =>
  obtain ⟨fuel, rfl⟩ := Nat.exists_eq_add_one_of_ne_zero (Nat.ne_of_gt (Nat.zero_lt_of_lt hfuel))
  rcases h with ⟨rfl, hat⟩ | ⟨c, others, rfl, hc, hat⟩
  · -- what follows is not moved in as far
    refine ⟨b, r, hat, ?_, rfl, fun h => h.resolve_left (fun hne => hne rfl)⟩
    rw [readBlockLines, hat.column]
    simp [Nat.ne_of_lt hn]
  · obtain ⟨lines, more, next, r', heq, hlines, hr', hnext, hwhole, hread⟩ :=
      @readBlockLines_line b _ _ _ _ _ _ hcs hc hat hrest (Nat.le_of_lt hn)
    rw [heq] at hcs hlength hfuel ⊢
    have hpos := List.length_pos_iff.2 hlines
    rw [List.length_append] at hlength hfuel
    obtain ⟨b', r'', hr'', hread', hwhole', hends⟩ := @ih more.length (by omega) next more fuel r'
      hcs.suffix hr' (by omega) rfl
    refine ⟨b', r'', hr'', (hread fuel).trans hread', ?_, fun _ => hends (.inr hnext)⟩
    rw [hwhole', hwhole, List.reverse_append, List.append_assoc]

end

/-! ## Ends -/

/-- The characters of a text that decide how its end is read, last first. -/
def Chomping.Fits (cs : List Char) : Chomping → Prop
  | .strip => ∃ last before, cs.reverse = last :: before ∧ isBreak last = false
  | .clip => ∃ last other before, cs.reverse = last :: other :: before ∧ isBreak last = true ∧
      isBreak other = false
  | .keep => ∃ last before, cs.reverse = last :: before ∧ isBreak last = true

section

variable {cs : List Char}

theorem literalHeader_eq (hne : cs ≠ []) (hprintable : IsPrintable cs) :
    ∃ hint ending given chomping, Printer.literalHeader cs = '|' :: (hint ++ ending) ∧
      (hint = [] ∧ given = none ∨ hint = ['2'] ∧ given = some 2) ∧
      (given = none → ∀ c ∈ cs.head?, c ≠ ' ' ∧ isBreak c = false) ∧
      (ending = [] ∧ chomping = .clip ∨ ending = ['-'] ∧ chomping = .strip ∨
        ending = ['+'] ∧ chomping = .keep) ∧
      Chomping.Fits cs chomping := by
  have hsame {c : Char} (hc : c ∈ cs) : Printer.isBreak c = isBreak c :=
    isBreak_of_isPrintable (hprintable c hc)
  -- the margin has to be told if the text begins with a blank or a break
  obtain ⟨hint, given, hhint, hgiven, hheader⟩ : ∃ hint given,
      (hint = [] ∧ given = none ∨ hint = ['2'] ∧ given = some 2) ∧
      (given = none → ∀ c ∈ cs.head?, c ≠ ' ' ∧ isBreak c = false) ∧
      (if cs.head?.any (fun c => c == ' ' || Printer.isBreak c) then ['2'] else []) = hint := by
    split
    next => exact ⟨['2'], some 2, .inr ⟨rfl, rfl⟩, by simp, rfl⟩
    next hhead =>
      refine ⟨[], none, .inl ⟨rfl, rfl⟩, fun _ c hc => ?_, rfl⟩
      have hc' : c ≠ ' ' ∧ Printer.isBreak c = false := by
        rw [show cs.head? = some c from hc] at hhead
        simpa using hhead
      exact ⟨hc'.1, (hsame (List.mem_of_head? hc)).symm.trans hc'.2⟩
  obtain ⟨last, before, hcs⟩ := List.exists_cons_of_ne_nil (List.reverse_ne_nil_iff.2 hne)
  have hlast : last ∈ cs := List.mem_reverse.1 (by simp [hcs])
  unfold Printer.literalHeader
  rw [hheader, hcs]
  dsimp only
  -- the last characters tell what becomes of the breaks at the end: none, several or one
  split
  next hline =>
    refine ⟨hint, ['-'], given, .strip, rfl, hhint, hgiven, .inr (.inl ⟨rfl, rfl⟩), last, before,
      hcs, ?_⟩
    rw [← hsame hlast]
    simpa using hline
  next hline =>
    have hbreak : isBreak last = true := by
      rw [← hsame hlast]
      simpa using hline
    split
    next => exact ⟨hint, ['+'], given, .keep, rfl, hhint, hgiven, .inr (.inr ⟨rfl, rfl⟩), last,
      before, hcs, hbreak⟩
    next hother =>
      cases before with
      | nil => exact absurd rfl hother
      | cons other before =>
          have hmem : other ∈ cs := List.mem_reverse.1 (by simp [hcs])
          refine ⟨hint, [], given, .clip, rfl, hhint, hgiven, .inl ⟨rfl, rfl⟩, last, other, before,
            hcs, hbreak, ?_⟩
          rw [← hsame hmem]
          simpa using hother

/-- Where the header does not keep all breaks at the end, something stands in front of them. -/
theorem Chomping.Fits.exists_char {chomping : Chomping} (h : chomping.Fits cs)
    (hkeep : chomping ≠ .keep) : ∃ c ∈ cs, isBreak c = false := by
  cases chomping with
  | strip =>
      obtain ⟨last, before, hcs, hlast⟩ := h
      exact ⟨last, List.mem_reverse.1 (by simp [hcs]), hlast⟩
  | clip =>
      obtain ⟨last, other, before, hcs, -, hother⟩ := h
      exact ⟨other, List.mem_reverse.1 (by simp [hcs]), hother⟩
  | keep => exact absurd rfl hkeep

theorem lineEnd_of_isBreak {last : Char} {before : List Char} (hcs : cs.reverse = last :: before)
    (hprintable : IsPrintable cs) : Printer.lineEnd cs = if isBreak last then [] else ['\n'] := by
  have hlast : cs.getLast? = some last := by
    rw [← List.head?_reverse, hcs]
    rfl
  have hmem : last ∈ cs := List.mem_of_getLast? hlast
  rw [Printer.lineEnd, hlast, ← isBreak_of_isPrintable (hprintable last hmem)]
  rfl

namespace Block

theorem EndsLine.unique {b : Block} {d : Char} {before : List Char} (h : b.EndsLine)
    (hwhole : b.whole = d :: before) (hbefore : ∀ c ∈ before.head?, isBreak c = false) :
    b.emptyLines = [] ∧ b.lastBreak = some d ∧ b.text = before := by
  obtain ⟨e, he, hbreak⟩ := h.lastBreak
  rw [whole, he] at hwhole
  cases hempty : b.emptyLines with
  | nil =>
      rw [hempty] at hwhole
      obtain ⟨rfl, htext⟩ := List.cons.inj hwhole
      exact ⟨rfl, he, htext⟩
  | cons c empty =>
      -- in front of the last break there would be another one
      rw [hempty] at hwhole
      obtain ⟨rfl, rfl⟩ := List.cons.inj hwhole
      cases empty with
      | nil =>
          have := hbefore e rfl
          rw [hbreak] at this
          cases this
      | cons c' empty =>
          have := hbefore c' rfl
          rw [h.emptyLines c' (by simp [hempty])] at this
          cases this

/-- The end of the block is what the header says. -/
theorem result_eq {b : Block} {chomping : Chomping} (hfits : chomping.Fits cs)
    (hprintable : IsPrintable cs) (hwhole : b.whole = (cs ++ Printer.lineEnd cs).reverse)
    (hends : chomping ≠ .keep → b.EndsLine) : b.result chomping = String.ofList cs := by
  -- the break that the printer added is dropped, and those of the text are kept
  cases chomping with
  | strip =>
      obtain ⟨last, before, hcs, hlast⟩ := hfits
      have hend : Printer.lineEnd cs = ['\n'] := by
        rw [lineEnd_of_isBreak hcs hprintable, hlast]
        rfl
      rw [hend, List.reverse_append, hcs] at hwhole
      obtain ⟨-, -, htext⟩ := (hends (by simp)).unique hwhole (by simpa using hlast)
      rw [result, htext, ← hcs]
      simp
  | clip =>
      obtain ⟨last, other, before, hcs, hlast, hother⟩ := hfits
      have hend : Printer.lineEnd cs = [] := by
        rw [lineEnd_of_isBreak hcs hprintable, hlast]
        rfl
      rw [hend, List.append_nil, hcs] at hwhole
      obtain ⟨-, hbreak, htext⟩ := (hends (by simp)).unique hwhole (by simpa using hother)
      have htext' : b.lastBreak.toList ++ b.text = cs.reverse := by
        rw [hbreak, htext, hcs]
        rfl
      rw [result, htext', List.reverse_reverse]
  | keep =>
      obtain ⟨last, before, hcs, hlast⟩ := hfits
      have hend : Printer.lineEnd cs = [] := by
        rw [lineEnd_of_isBreak hcs hprintable, hlast]
        rfl
      rw [hend, List.append_nil, whole] at hwhole
      show String.ofList (b.emptyLines ++ b.lastBreak.toList ++ b.text).reverse = _
      rw [List.append_assoc, hwhole, List.reverse_reverse]

end Block

end

/-! ## Blocks -/

theorem moveIn_lineEnd (margin : Nat) (fresh : Bool) (cs : List Char) :
    Printer.moveIn margin fresh (cs ++ Printer.lineEnd cs) =
      Printer.moveIn margin fresh cs ++ Printer.lineEnd cs := by
  have hbreak : Printer.isBreak '\n' = true := by decide
  have hline : Printer.moveIn margin fresh (cs ++ ['\n']) =
      Printer.moveIn margin fresh cs ++ ['\n'] := by
    induction cs generalizing fresh with
    | nil => simp [Printer.moveIn, hbreak]
    | cons c cs ih =>
        rw [List.cons_append, Printer.moveIn, Printer.moveIn]
        split <;> simp [ih]
  unfold Printer.lineEnd
  split
  · simp
  · exact hline

/-- A text with the end of its last line. -/
theorem isBody_lineEnd {cs : List Char} (hprintable : IsPrintable cs) :
    IsBody (cs ++ Printer.lineEnd cs) := by
  unfold Printer.lineEnd
  split
  next hlast =>
    rw [List.append_nil]
    refine ⟨hprintable, fun d hd => ?_⟩
    rw [show cs.getLast? = some d from hd] at hlast
    rw [← isBreak_of_isPrintable (hprintable d (List.mem_of_getLast? hd))]
    exact hlast
  next =>
    refine ⟨hprintable.append (.cons (by decide) (by simp [IsPrintable])), fun d hd => ?_⟩
    rw [List.getLast?_append_of_ne_nil _ (by simp)] at hd
    obtain rfl : '\n' = d := by simpa using hd
    decide

section

variable {cs rest : List Char} {r : Reader} {column n margin fuel : Nat} {parent : Int}

/-- A text that was written as a block is read back. -/
theorem readBlock_literal (hne : cs ≠ []) (hprintable : IsPrintable cs)
    (hmargin : (margin : Int) = parent + 2) (hparent : (n : Int) ≤ parent) (hrest : Begins rest)
    {header : List Char} (hheader : Printer.literalHeader cs = '|' :: header)
    (h : r.At column
      (header ++ '\n' :: (Printer.moveIn margin true (cs ++ Printer.lineEnd cs) ++
        (blanks n ++ rest)))) :
    ∃ r', r'.At n rest ∧ readBlock true parent r = some (String.ofList cs, r') := by
  obtain ⟨hint, ending, given, chomping, heq, hhint, hgiven, hending, hfits⟩ :=
    literalHeader_eq hne hprintable
  obtain rfl : header = hint ++ ending := (List.cons.inj (hheader.symm.trans heq)).2
  have hn : n < margin := by omega
  have hbody := isBody_lineEnd hprintable
  rw [List.append_assoc] at h
  obtain ⟨column', r₁, h₁, hread₁⟩ := readBlockHeader_eq hhint hending h
  have h₂ := h₁.nextLine (by decide)
  -- the margin is known from the header, or from the first line
  have hknown : (given.map fun n => (max parent 0).toNat + n) = some margin ∨
      (given.map fun n => (max parent 0).toNat + n) = none ∧
        ∀ c ∈ (cs ++ Printer.lineEnd cs).head?, c ≠ ' ' ∧ isBreak c = false := by
    rcases hhint with ⟨-, rfl⟩ | ⟨-, rfl⟩
    · refine .inr ⟨rfl, ?_⟩
      rw [List.head?_append_of_ne_nil _ hne]
      exact hgiven rfl
    · have heq : (max parent 0).toNat + 2 = margin := by omega
      exact .inl (congrArg some heq)
  have hfuel : (cs ++ Printer.lineEnd cs).length < r₁.nextLine.rest.length + 1 := by
    have := length_le_moveIn margin true (cs ++ Printer.lineEnd cs)
    rw [h₂.rest]
    simp only [List.length_append] at this ⊢
    omega
  obtain ⟨empty, more, deepest, r₃, hcs, hbreaks, h₃, hread₃, hdeepest⟩ :=
    readEmptyLines_first (by simp [hne]) hknown hbody.printable h₂ hrest (Nat.le_of_lt hn) hfuel
  -- the margin that is found is the one that was written
  have hindent : (given.map fun n => (max parent 0).toNat + n).getD
      (max deepest (max (parent + 1).toNat 1)) = margin := by
    rcases hknown with hknown | ⟨hknown, -⟩
    · rw [hknown]
      rfl
    · rw [hknown, hdeepest hknown]
      show max margin (max (parent + 1).toNat 1) = margin
      omega
  rw [hcs] at hbody
  obtain ⟨b, r₄, h₄, hread₄, hwhole, hends⟩ :=
    @readBlockLines_eq { emptyLines := empty.reverse } more rest margin n (r₃.rest.length + 1) r₃
      hbody.suffix h₃ hrest hn (Nat.lt_succ_of_le h₃.length_le)
  have hresult : b.result chomping = String.ofList cs := by
    refine Block.result_eq hfits hprintable ?_ fun hkeep => hends (.inl ?_)
    · rw [hwhole, hcs]
      simp [Block.whole]
    · -- the text does not consist of empty lines
      rintro rfl
      obtain ⟨c, hc, hbreak⟩ := hfits.exists_char hkeep
      rw [List.append_nil] at hcs
      rw [hbreaks c (by rw [← hcs]; exact List.mem_append_left _ hc)] at hbreak
      cases hbreak
  refine ⟨r₄, h₄, ?_⟩
  simp only [readBlock, hread₁, Option.bind_eq_bind, Option.bind_some, h₁.finishLine, hread₃,
    hindent, hread₄, hresult, pure]

end

namespace Nest

variable {b : Nest} {r : Reader} {column n margin : Nat} {s : String} {rest : List Char}

/-- A text that is written as a block, and the lines it takes. -/
theorem leads_literal (hform : Printer.formOf false s = .literal)
    (h : r.At column (Printer.textLines margin s ++ (blanks n ++ rest))) (hrest : Begins rest)
    (hmargin : (margin : Int) = b.indent + 2) (hn : (n : Int) ≤ b.indent) (hcolumn : 0 < column) :
    ∃ r', r'.At n rest ∧ (b.scanner r false).Leads
      (((b.push (.scalar .literal s)).close n).scanner r' true) := by
  obtain ⟨hmem, hescapes⟩ := formOf_literal hform
  obtain ⟨hprintable, -⟩ := of_needsEscapes hescapes
  have hne : s.toList ≠ [] := List.ne_nil_of_mem hmem
  obtain ⟨hint, ending, -, -, hheader, -⟩ := literalHeader_eq hne hprintable
  have htext : Printer.textLines margin s ++ (blanks n ++ rest) = '|' :: (hint ++ ending ++ '\n' ::
      (Printer.moveIn margin true (s.toList ++ Printer.lineEnd s.toList) ++
        (blanks n ++ rest))) := by
    rw [Printer.textLines, hform, moveIn_lineEnd, hheader]
    simp
  rw [htext] at h
  have hmarker := Reader.atDocumentMarker_of_pos h hcolumn
  have hmarkers : r.atMarker '-' = false ∧ r.atMarker '.' = false := by
    simpa [Reader.atDocumentMarker] using hmarker
  obtain ⟨r', hr', hread⟩ :=
    readBlock_literal hne hprintable hmargin hn hrest hheader h.advance_one
  -- no other token begins with this mark
  have hscan (body : List Char) : (b.scanner r false).scanToken '|' body =
      some ((b.push (.scalar .literal s)).scanner r' true) := by
    have hblock : (b.scanner r false).scanToken '|' body =
        (b.scanner r false).block .literal := by
      simp [Scanner.scanToken, scanner, Scanner.inFlow, hmarkers]
    rw [hblock]
    show (readBlock true b.indent (r.advance 1)).bind _ = _
    rw [hread, String.ofList_toList]
    rfl
  refine ⟨r', hr', leads_of_scan h.rest (hscan _) hr' hrest ?_⟩
  simp only [List.length_append, List.length_cons]
  omega

end Nest

end ClusterLifecycle.Yaml
