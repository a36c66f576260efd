import ClusterLifecycle.Proofs.Yaml.Voids
import ClusterLifecycle.Yaml.Printer

/-!
# Scanning step by step

Between two tokens of block collections the scanner knows which collections are open and where it
stands. From there it reads a token and moves to the next one; several such steps lead from one
place to another, and each takes some characters of the text.

Main statements: `Scanner.Leads.trans` puts steps together, `Scanner.run_of_leads` ends them, and
`Nest.leads_key` is the step over a key and its colon.
-/

namespace ClusterLifecycle.Yaml

open Printer (blanks)

/-! ## Positions -/

/-- A token may begin here, or nothing is left. -/
def Begins (rest : List Char) : Prop :=
  ∀ c ∈ rest.head?, isSpacing c = false ∧ isBreak c = false ∧ c ≠ '#' ∧ c ≠ byteOrderMark

section

variable {p : Char → Bool} {c : Char}

/-- A character of a class without spacing neither separates words nor ends lines. -/
theorem spacing_of_class (hc : p c = true)
    (hp : [' ', '\t', '\n', '\u2028', '\u2029'].any p = false) :
    isSpacing c = false ∧ isBreak c = false := by
  have hspacing := Text.notMem_of_class hc hp
  simp only [List.mem_cons, List.not_mem_nil, or_false, not_or] at hspacing
  simp [isSpacing, isBreak, hspacing]

theorem Begins.of_class {rest : List Char} (hc : p c = true)
    (hp : [' ', '\t', '\n', '\u2028', '\u2029'].any p = false)
    (hp' : ['#', byteOrderMark].any p = false) : Begins (c :: rest) := by
  intro d hd
  obtain rfl : c = d := by simpa using hd
  obtain ⟨hspacing, hbreak⟩ := spacing_of_class hc hp
  exact ⟨hspacing, hbreak, by simpa using Text.notMem_of_class hc hp'⟩

end

namespace Reader

variable {r : Reader} {column n : Nat} {c : Char} {cs rest : List Char} {p : Char → Bool}

/-- The reader stands at a column, in front of some text. -/
structure At (r : Reader) (column : Nat) (rest : List Char) : Prop where
  column : r.column = column
  rest : r.rest = rest

theorem At.advance (h : r.At column (cs ++ rest)) :
    (r.advance cs.length).At (column + cs.length) rest := by
  constructor
  · rw [← h.column]
    rfl
  · show r.rest.drop cs.length = rest
    rw [h.rest, List.drop_left]

theorem advance_advance (r : Reader) (m n : Nat) :
    (r.advance m).advance n = r.advance (m + n) := by
  simp [Reader.advance, Nat.add_assoc]

theorem At.advance_one (h : r.At column (c :: rest)) : (r.advance 1).At (column + 1) rest :=
  @At.advance r column [c] rest h

theorem At.advance_blanks (h : r.At column (blanks n ++ rest)) :
    (r.advance n).At (column + n) rest := by
  have hlength : (blanks n).length = n := List.length_replicate
  simpa only [hlength] using At.advance h

theorem At.nextLine (h : r.At column (c :: rest)) (hc : isBreak c = true) :
    r.nextLine.At 0 rest := by
  rw [Reader.nextLine, h.rest]
  simp only [hc, if_true]
  exact ⟨rfl, rfl⟩

theorem At.span (h : r.At column (cs ++ rest)) (hcs : ∀ c ∈ cs, p c = true)
    (hrest : ∀ c ∈ rest.head?, p c = false) : r.span p = (cs, r.advance cs.length) := by
  have hfound : r.rest.takeWhile p = cs := by
    rw [h.rest, List.takeWhile_append_of_pos hcs]
    cases rest with
    | nil => simp
    | cons c rest => simp [hrest c rfl]
  rw [Reader.span, hfound]

theorem At.skip (h : r.At column (cs ++ rest)) (hcs : ∀ c ∈ cs, p c = true)
    (hrest : ∀ c ∈ rest.head?, p c = false) : r.skip p = r.advance cs.length := by
  rw [Reader.skip, h.span hcs hrest]

theorem skipMark_of_ne (h : r.rest.head? ≠ some byteOrderMark) : r.skipMark = r := by
  simp [skipMark, h]

/-- Behind the beginning of a line there are no document markers. -/
theorem atDocumentMarker_of_pos (h : r.At column rest) (hpos : 0 < column) :
    r.atDocumentMarker = false := by
  have hcolumn : (r.column == 0) = false := by
    rw [h.column]
    simpa using Nat.ne_of_gt hpos
  simp [atDocumentMarker, atMarker, hcolumn]

/-- A document marker begins with its own character. -/
theorem atDocumentMarker_of_head (h : r.At column rest) (hhead : rest.head? ≠ some '-')
    (hhead' : rest.head? ≠ some '.') : r.atDocumentMarker = false := by
  unfold atDocumentMarker atMarker
  rw [h.rest]
  cases rest with
  | nil => simp
  | cons c rest =>
      have hc : c ≠ '-' ∧ c ≠ '.' := by simpa using And.intro hhead hhead'
      match rest with
      | [] | [_] => simp
      | b :: d :: more => simp [hc.1, hc.2]

end Reader

theorem mem_blanks {n : Nat} {c : Char} (h : c ∈ blanks n) : c = ' ' :=
  List.eq_of_mem_replicate h

namespace Scanner

variable {r : Reader} {column n fuel : Nat} {b : Char} {rest : List Char} {keyAllowed : Bool}

/-- Blanks in front of the next token are skipped. -/
theorem skipToToken_blanks (h : r.At column (blanks n ++ rest)) (hrest : Begins rest) :
    skipToToken false (fuel + 1) keyAllowed r = (keyAllowed, r.advance n) := by
  have hlength : (blanks n).length = n := List.length_replicate
  have hmark : r.rest.head? ≠ some byteOrderMark := by
    rw [h.rest]
    cases n with
    | zero =>
        intro hhead
        exact (hrest _ hhead).2.2.2 rfl
    | succ n => simp [blanks, List.replicate_succ, byteOrderMark]
  -- whichever blanks are skipped, those that are there are, and nothing behind them
  have hskip (p : Char → Bool) (hblank : p ' ' = true)
      (hspacing : ∀ c, isSpacing c = false → p c = false) : r.skip p = r.advance n := by
    rw [h.skip, hlength]
    · intro c hc
      rwa [mem_blanks hc]
    · exact fun c hc => hspacing c (hrest c hc).1
  have hspaces : r.skip (fun c => c == ' ' || ((false || !keyAllowed) && c == '\t')) =
      r.advance n := by
    apply hskip
    · rfl
    · intro c hc
      have hne : c ≠ ' ' ∧ c ≠ '\t' := by simpa [isSpacing] using hc
      simp [hne.1, hne.2]
  have hat := h.advance_blanks
  have hcomment : (r.advance n).skipComment = r.advance n := by
    unfold Reader.skipComment
    split
    next more hmore =>
      rw [hat.rest] at hmore
      exact absurd rfl (hrest '#' (by simp [hmore])).2.2.1
    next => rfl
  rw [skipToToken]
  simp only [Reader.skipMark_of_ne hmark, hspaces, hcomment]
  rw [hat.rest]
  cases rest with
  | nil => rfl
  | cons c more =>
      have hc : isBreak c = false := (hrest c rfl).2.1
      simp [hc]

/-- Behind a line break a key may begin. -/
theorem skipToToken_break (h : r.At column (b :: rest)) (hb : isBreak b = true) :
    skipToToken false (fuel + 1) keyAllowed r = skipToToken false fuel true r.nextLine := by
  have hne (c : Char) (hc : isBreak c = false) : b ≠ c := by
    rintro rfl
    rw [hb] at hc
    cases hc
  have hmark : r.rest.head? ≠ some byteOrderMark := by
    rw [h.rest]
    simpa using hne byteOrderMark (by decide)
  -- at a break there is no blank, no comment and no mark to skip
  have hspaces : r.skip (fun c => c == ' ' || ((false || !keyAllowed) && c == '\t')) = r := by
    have hat : r.At column ([] ++ b :: rest) := h
    rw [hat.skip (by simp)]
    · rfl
    · intro c hc
      obtain rfl : b = c := by simpa using hc
      simp [hne ' ' (by decide), hne '\t' (by decide)]
  have hcomment : r.skipComment = r := by
    unfold Reader.skipComment
    split
    next more hmore =>
      rw [h.rest] at hmore
      injection hmore with hhash
      exact absurd hhash (hne '#' (by decide))
    next => rfl
  rw [skipToToken]
  simp only [Reader.skipMark_of_ne hmark, hspaces, hcomment]
  rw [h.rest]
  simp [hb]

theorem closeBlocks_of_le {s : Scanner} {column : Int} (h : s.indent ≤ column) :
    s.closeBlocks column = s := by
  obtain ⟨_, tokens, count, indent, outer, _, _, _⟩ := s
  unfold closeBlocks
  split
  · rfl
  · cases outer with
    | nil => rfl
    | cons next outer =>
        rw [closeBlocksTo, if_neg (Int.not_lt.2 h)]

/-! ## Steps -/

/-- From one token the scanner gets to another one, at the latest with every character a token. -/
def Leads (s s' : Scanner) : Prop :=
  ∃ count, count + s'.reader.rest.length ≤ s.reader.rest.length ∧
    ∀ fuel, resume (run (fuel + count)) s = resume (run fuel) s'

variable {s t u : Scanner}

theorem Leads.trans (h : Leads s t) (h' : Leads t u) : Leads s u := by
  obtain ⟨n, hn, hrun⟩ := h
  obtain ⟨m, hm, hrun'⟩ := h'
  refine ⟨m + n, by omega, fun fuel => ?_⟩
  rw [← Nat.add_assoc, hrun, hrun']

theorem leads_of_step {c : Char} (hrest : s.reader.rest = c :: rest)
    (hscan : s.scanToken c rest = some t) (hnext : t.toToken = some u)
    (hless : u.reader.rest.length ≤ rest.length) : Leads s u := by
  refine ⟨1, ?_, fun fuel => ?_⟩
  · rw [hrest, List.length_cons]
    omega
  · rw [resume, hrest]
    simp only [hscan, Option.bind_some]
    rw [run, hnext, Option.bind_some]

/-- A text is read token by token up to its end. -/
theorem run_of_leads (hnext : s.toToken = some t) (h : Leads t u) (hend : u.reader.rest = [])
    (hfuel : t.reader.rest.length < fuel) : run fuel s = u.finish := by
  obtain ⟨count, hcount, hrun⟩ := h
  obtain ⟨more, rfl⟩ : ∃ more, fuel = more + count + 1 := ⟨fuel - count - 1, by omega⟩
  rw [run, hnext, Option.bind_some, hrun, resume, hend]

end Scanner

/-! ## Open collections -/

/-- The tokens up to a place in block collections, latest first, and the collections that are open
there. -/
structure Nest where
  tokens : List Token
  /-- The column of the innermost collection; -1 outside of all. -/
  indent : Int
  /-- The columns of those around it. -/
  outer : List Int

namespace Nest

variable {b : Nest} {r r' : Reader} {column n : Nat} {rest : List Char} {keyAllowed : Bool}

/-- The scanner between two tokens: no key has begun. -/
def scanner (b : Nest) (r : Reader) (keyAllowed : Bool) : Scanner where
  reader := r
  tokens := b.tokens
  count := b.tokens.length
  indent := b.indent
  outer := b.outer
  keyAllowed := keyAllowed

/-- The nest with a further token. -/
def push (b : Nest) (t : Token) : Nest :=
  { b with tokens := t :: b.tokens }

/-- The nest behind a key at a column and its colon. The first key of a mapping opens it. -/
def openKey (b : Nest) (column : Nat) (key : String) : Nest :=
  if (column : Int) ≤ b.indent then
    { b with tokens := .value :: .scalar .plain key :: .key :: b.tokens }
  else
    ⟨.value :: .scalar .plain key :: .key :: .blockMappingStart :: b.tokens, column,
      b.indent :: b.outer⟩

/-- The nest in front of a token at a column: what is open behind it is closed. -/
def close (b : Nest) (column : Int) : Nest :=
  let (tokens, _, indent, outer) :=
    Scanner.closeBlocksTo column b.tokens b.tokens.length b.indent b.outer
  ⟨tokens, indent, outer⟩

theorem close_of_le {column : Int} (h : b.indent ≤ column) : b.close column = b := by
  obtain ⟨tokens, indent, outer⟩ := b
  unfold close
  cases outer with
  | nil => rfl
  | cons next outer =>
      rw [Scanner.closeBlocksTo, if_neg (Int.not_lt.2 h)]

theorem close_of_lt {tokens : List Token} {column indent next : Int} {outer : List Int}
    (h : column < indent) :
    close ⟨tokens, indent, next :: outer⟩ column =
      close ⟨.blockEnd :: tokens, next, outer⟩ column := by
  rw [close, Scanner.closeBlocksTo, if_pos h]
  rfl

theorem closeBlocksTo_count (column : Int) (tokens : List Token) (indent : Int)
    (outer : List Int) :
    (Scanner.closeBlocksTo column tokens tokens.length indent outer).2.1 =
      (Scanner.closeBlocksTo column tokens tokens.length indent outer).1.length := by
  induction outer generalizing tokens indent with
  | nil => rfl
  | cons next outer ih =>
      rw [Scanner.closeBlocksTo]
      split
      · exact ih (.blockEnd :: tokens) next
      · rfl

theorem closeBlocks_scanner (b : Nest) (r : Reader) (keyAllowed : Bool) (column : Int) :
    (b.scanner r keyAllowed).closeBlocks column = (b.close column).scanner r keyAllowed := by
  have hcount := closeBlocksTo_count column b.tokens b.indent b.outer
  unfold Scanner.closeBlocks
  rw [if_neg (by simp [Scanner.inFlow, scanner])]
  show Scanner.mk .. = Scanner.mk ..
  congr

theorem toToken_scanner {skipped : Bool × Reader}
    (h : Scanner.skipToToken false (r.rest.length + 1) keyAllowed r = skipped) :
    (b.scanner r keyAllowed).toToken =
      some ((b.close skipped.2.column).scanner skipped.2 skipped.1) := by
  rw [← closeBlocks_scanner, ← h]
  rfl

/-- The next token is on the same line. -/
theorem toToken_blanks (h : r.At column (blanks n ++ rest)) (hrest : Begins rest) :
    (b.scanner r keyAllowed).toToken =
      some ((b.close ((column + n : Nat) : Int)).scanner (r.advance n) keyAllowed) := by
  rw [toToken_scanner (Scanner.skipToToken_blanks h hrest), h.advance_blanks.column]

/-- The next token is on the next line, where it may be a key. -/
theorem toToken_break {c : Char} (h : r.At column (c :: (blanks n ++ rest)))
    (hc : isBreak c = true) (hrest : Begins rest) :
    (b.scanner r keyAllowed).toToken =
      some ((b.close (n : Int)).scanner (r.nextLine.advance n) true) := by
  have hnext := h.nextLine hc
  have hfuel : r.rest.length = (blanks n ++ rest).length + 1 := by
    rw [h.rest, List.length_cons]
  have hskip : Scanner.skipToToken false (r.rest.length + 1) keyAllowed r =
      (true, r.nextLine.advance n) := by
    rw [Scanner.skipToToken_break h hc, hfuel, Scanner.skipToToken_blanks hnext hrest]
  have hcolumn : (r.nextLine.advance n).column = n :=
    hnext.advance_blanks.column.trans (Nat.zero_add n)
  rw [toToken_scanner hskip, hcolumn]

/-- A token is read together with the end of its line and the margin of the next one. -/
theorem leads_of_scan {c : Char} {body : List Char} {t : Token} (hrest : r.rest = c :: body)
    (hscan : (b.scanner r keyAllowed).scanToken c body = some ((b.push t).scanner r' true))
    (hr' : r'.At n rest) (hbegins : Begins rest) (hless : rest.length ≤ body.length) :
    (b.scanner r keyAllowed).Leads (((b.push t).close n).scanner r' true) := by
  have hat : r'.At n (blanks 0 ++ rest) := hr'
  have hnext : ((b.push t).scanner r' true).toToken =
      some (((b.push t).close n).scanner r' true) :=
    toToken_blanks hat hbegins
  refine Scanner.leads_of_step hrest hscan hnext ?_
  show r'.rest.length ≤ _
  rwa [hr'.rest]

end Nest

/-! ## Keys -/

theorem isGap_of_isBreak {c : Char} (h : isBreak c = true) : Printer.isBreak c = true := by
  have hc : (c = '\n' ∨ c = '\u2028') ∨ c = '\u2029' := by simpa [isBreak] using h
  obtain (rfl | rfl) | rfl := hc <;> decide

theorem isGap_of_endsWord {rest : List Char} (h : endsWord rest = true) :
    Printer.isGap rest.head? = true := by
  cases rest with
  | nil => rfl
  | cons c rest =>
      show (c == ' ' || c == '\t' || c == '\x00' || Printer.isBreak c) = true
      rcases Bool.or_eq_true_iff.1 (show (isSpacing c || isBreak c) = true from h) with hc | hc
      · rw [show (c == ' ' || c == '\t') = true from hc]
        rfl
      · rw [isGap_of_isBreak hc, Bool.or_true]

/-- A character of a class without marks is no mark. -/
theorem isLeadingMark_of_class {p : Char → Bool} {c : Char} (hc : p c = true)
    (hp : ['#', ',', '[', ']', '\x7b', '\x7d', '&', '*', '!', '|', '>', '\'', '"', '%', '@',
      '\u0060', '?', ':', '-'].any p = false) (next : Option Char) :
    Printer.isLeadingMark c next = false := by
  have hmark := Text.notMem_of_class hc hp
  simp only [List.mem_cons, List.not_mem_nil, or_false, not_or] at hmark
  simp [Printer.isLeadingMark, hmark]

/-- What means nothing else to a reader is a plain scalar. -/
theorem Scanner.scanToken_plain {s : Scanner} {c : Char} {rest : List Char}
    (hflow : s.inFlow = false) (hmarker : s.reader.atDocumentMarker = false)
    (hlead : Printer.isLeadingMark c rest.head? = false) (hspacing : isSpacing c = false) :
    s.scanToken c rest = s.plainScalar := by
  have hmarkers : s.reader.atMarker '-' = false ∧ s.reader.atMarker '.' = false := by
    simpa [Reader.atDocumentMarker] using hmarker
  obtain ⟨hmark, hgap⟩ : c ∉ ['#', ',', '[', ']', '\x7b', '\x7d', '&', '*', '!', '|', '>', '\'',
      '"', '%', '@', '\u0060'] ∧
      ((c = '?' ∨ c = ':' ∨ c = '-') → Printer.isGap rest.head? = false) := by
    simpa [Printer.isLeadingMark, or_assoc] using hlead
  simp only [List.mem_cons, List.not_mem_nil, or_false, not_or] at hmark
  -- a dash, a question mark or a colon stands in front of a word
  have hword (h : c = '?' ∨ c = ':' ∨ c = '-') : endsWord rest = false := by
    by_contra hends
    have := isGap_of_endsWord (by simpa using hends)
    simp [hgap h] at this
  have hmarked (d : Char) (hd : d = '?' ∨ d = ':' ∨ d = '-') :
      (c == d && endsWord rest) = false := by
    by_cases h : c = d
    · simp [hword (h ▸ hd)]
    · simp [h]
  have hbegins : beginsPlain false c rest = true := by
    unfold beginsPlain
    split
    next hdash =>
      have hends := hword (by simp_all)
      cases rest with
      | nil => cases hends
      | cons d rest =>
          have hd : isSpacing d = false := (Bool.or_eq_false_iff.1 hends).1
          simp [hd]
    next =>
      split
      next hc => simp [hword (by simp_all)]
      next => simp [hspacing, hmark]
  have hdash := hmarked '-' (by simp)
  have hquestion := hmarked '?' (by simp)
  have hcolon := hmarked ':' (by simp)
  simp [scanToken, hflow, hmarkers, hmark, hdash, hquestion, hcolon, hbegins]

/-- A word of a plain scalar ends here. -/
def EndsWord (rest : List Char) : Prop :=
  endsWord rest = true ∨ ∃ after, rest = ':' :: after ∧ endsWord after = true

/-- A word is read as it stands. -/
theorem readPlainWord_eq {w tail : List Char} {column fuel : Nat} {f : Folding} {r : Reader}
    (h : r.At column (w ++ tail)) (hfuel : w.length ≤ fuel)
    (hchars : ∀ c ∈ w, isSpacing c = false ∧ isBreak c = false)
    (hcolon : ∀ pre post, w = pre ++ ':' :: post → endsWord (post ++ tail) = false)
    (hend : EndsWord tail) :
    readPlainWord false f fuel r = some (w.foldl Folding.push f, r.advance w.length) := by
  -- induction on the word; a colon inside it has no gap behind it
  induction w generalizing column fuel f r with
  | nil =>
      rw [List.nil_append] at h
      cases fuel with
      | zero => rfl
      | succ fuel =>
          rw [readPlainWord, h.rest]
          cases tail with
          | nil => rfl
          | cons c rest =>
              rcases hend with hgap | ⟨after, hafter, hgap⟩
              · have hc : (isSpacing c || isBreak c) = true := hgap
                simp only [hc, if_true]
                rfl
              · cases hafter
                simp [hgap]
                rfl
  | cons c w ih =>
      obtain ⟨hc, hw⟩ := List.forall_mem_cons.1 hchars
      cases fuel with
      | zero => exact absurd hfuel (Nat.not_succ_le_zero _)
      | succ fuel =>
          have hword : (c == ':' && endsWord (w ++ tail)) = false := by
            by_cases hc : c = ':'
            · simp [hcolon [] w (by rw [hc]; rfl)]
            · simp [hc]
          rw [readPlainWord, h.rest]
          simp only [List.cons_append, hc.1, hc.2, hword, Bool.or_false, Bool.false_and,
            Bool.false_eq_true, if_false]
          rw [ih h.advance_one (Nat.le_of_succ_le_succ hfuel) hw]
          · rw [Reader.advance_advance, Nat.add_comm 1, List.length_cons]
            rfl
          · intro pre post hpost
            exact hcolon (c :: pre) post (by rw [hpost]; rfl)

/-- A key that consists of letters and is written plain. It is short enough for its colon to be
looked for. -/
structure IsName (key : String) : Prop where
  ne_nil : key.toList ≠ []
  letters : ∀ c ∈ key.toList, c.isAlpha = true
  short : key.toList.length ≤ 1024
  plain : Printer.formOf true key = .plain

instance (key : String) : Decidable (IsName key) :=
  decidable_of_iff (key.toList ≠ [] ∧ key.toList.all Char.isAlpha = true ∧
    key.toList.length ≤ 1024 ∧ Printer.formOf true key = .plain)
    ⟨fun h => ⟨h.1, List.all_eq_true.1 h.2.1, h.2.2.1, h.2.2.2⟩,
      fun h => ⟨h.ne_nil, List.all_eq_true.2 h.letters, h.short, h.plain⟩⟩

/-- Characters behind blanks of the same line. -/
theorem Folding.foldl_push {cs text spaces : List Char} (hne : cs ≠ []) :
    cs.foldl push { text := text, blanks := spaces } =
      { text := cs.reverse ++ (spaces ++ text) } := by
  induction cs generalizing text spaces with
  | nil => exact absurd rfl hne
  | cons c cs ih =>
      have hpush : push { text := text, blanks := spaces } c =
          { text := c :: (spaces ++ text) } := rfl
      rw [List.foldl_cons, hpush]
      cases cs with
      | nil => rfl
      | cons d cs =>
          rw [ih (by simp)]
          simp

theorem readPlain_name {key : String} {after : List Char} {column : Nat} {r : Reader}
    (hkey : IsName key) (h : r.At column (key.toList ++ ':' :: after))
    (hafter : endsWord after = true) (hmarker : r.atDocumentMarker = false) (indent : Int) :
    readPlain false indent r = some ((key, false), r.advance key.toList.length) := by
  have hchars : ∀ c ∈ key.toList, isSpacing c = false ∧ isBreak c = false := by
    intro c hc
    exact spacing_of_class (hkey.letters c hc) (by decide)
  have hcolon : ∀ pre post, key.toList = pre ++ ':' :: post →
      endsWord (post ++ ':' :: after) = false := by
    intro pre post hpost
    have hmem : ':' ∈ key.toList := by simp [hpost]
    exact absurd (hkey.letters ':' hmem) (by decide)
  have hhash : r.rest.head? ≠ some '#' := by
    rw [h.rest]
    cases hchars : key.toList with
    | nil => exact absurd hchars hkey.ne_nil
    | cons c cs =>
        have hc := hkey.letters c (by simp [hchars])
        simpa using Text.ne_of_class hc (by decide : Char.isAlpha '#' = false)
  have hword := @readPlainWord_eq _ _ _ r.rest.length {} _ h (by simp [h.rest]) hchars hcolon
    (.inr ⟨after, rfl, hafter⟩)
  -- the colon ends the word, and no further word belongs to the key
  have hstop : endsWord (r.advance key.toList.length).rest = false := by
    rw [h.advance.rest]
    rfl
  rw [readPlain, readPlainWords]
  simp only [hmarker, hhash, beq_iff_eq, Bool.or_eq_true, Bool.false_eq_true, or_self, if_false,
    hword, Option.bind_eq_bind, Option.bind_some, hstop, Bool.false_and]
  rw [Folding.foldl_push hkey.ne_nil]
  simp [Folding.result]

namespace Nest

variable {b : Nest} {r : Reader} {column : Nat} {key : String} {after : List Char}

/-- The scanner behind a key, where a colon is looked for. -/
def behindKey (b : Nest) (r : Reader) (key : String) : Scanner :=
  { (b.push (.scalar .plain key)).scanner (r.advance key.toList.length) false with
    possibleKey := some {
      required := b.indent == r.column
      position := b.tokens.length
      index := r.index
      column := r.column
      line := r.line } }

theorem scanToken_name (hkey : IsName key) (h : r.At column (key.toList ++ ':' :: after))
    (hafter : endsWord after = true) :
    ∃ c rest, r.rest = c :: rest ∧
      (b.scanner r true).scanToken c rest = some (b.behindKey r key) := by
  obtain ⟨c, cs, hcs⟩ := List.exists_cons_of_ne_nil hkey.ne_nil
  have hc : c.isAlpha = true := hkey.letters c (by simp [hcs])
  have hne (d : Char) (hd : d.isAlpha = false) : c ≠ d := Text.ne_of_class hc hd
  have hrest : r.rest = c :: (cs ++ ':' :: after) := by rw [h.rest, hcs, List.cons_append]
  -- a key begins with a letter, so no line with one is a marker
  have hmarker : r.atDocumentMarker = false := by
    apply Reader.atDocumentMarker_of_head h
    · simpa [hcs] using hne '-' (by decide)
    · simpa [hcs] using hne '.' (by decide)
  refine ⟨c, cs ++ ':' :: after, hrest, ?_⟩
  rw [Scanner.scanToken_plain rfl hmarker]
  · show (readPlain false (b.indent + 1) r).bind _ = _
    rw [readPlain_name hkey h hafter hmarker]
    rfl
  · exact isLeadingMark_of_class hc (by decide) _
  · exact (spacing_of_class hc (by decide)).1

theorem toToken_behindKey (hkey : IsName key) (h : r.At column (key.toList ++ ':' :: after))
    (hindent : b.indent ≤ column) : (b.behindKey r key).toToken = some (b.behindKey r key) := by
  have hat := h.advance
  have hskip : Scanner.skipToToken false ((r.advance key.toList.length).rest.length + 1) false
      (r.advance key.toList.length) = (false, r.advance key.toList.length) :=
    Scanner.skipToToken_blanks (n := 0) hat (by
      intro c hc
      obtain rfl : ':' = c := by simpa using hc
      decide)
  -- the colon is near enough
  have hfresh : Scanner.dropStaleKeys (b.behindKey r key) = some (b.behindKey r key) := by
    have hshort : ¬ r.index + 1024 < r.index + key.toList.length := by
      have := hkey.short
      omega
    simp [Scanner.dropStaleKeys, Scanner.dropIfStale, Scanner.isStale, behindKey, scanner,
      Reader.advance, hshort]
  have hclose : (b.behindKey r key).closeBlocks (r.advance key.toList.length).column =
      b.behindKey r key := by
    apply Scanner.closeBlocks_of_le
    rw [hat.column]
    show b.indent ≤ _
    omega
  show Option.bind (Scanner.dropStaleKeys { b.behindKey r key with
    keyAllowed := (Scanner.skipToToken false ((r.advance key.toList.length).rest.length + 1) false
      (r.advance key.toList.length)).1
    reader := (Scanner.skipToToken false ((r.advance key.toList.length).rest.length + 1) false
      (r.advance key.toList.length)).2 }) _ = _
  rw [hskip]
  show Option.bind (Scanner.dropStaleKeys (b.behindKey r key)) _ = _
  rw [hfresh]
  exact congrArg some hclose

theorem scanToken_colon (h : r.At column (key.toList ++ ':' :: after))
    (hafter : endsWord after = true) :
    (b.behindKey r key).scanToken ':' after =
      some ((b.openKey column key).scanner ((r.advance key.toList.length).advance 1) false) := by
  have hmarker : ((r.advance key.toList.length).atDocumentMarker) = false := by
    apply Reader.atDocumentMarker_of_head h.advance <;> simp
  have hmarkers : (r.advance key.toList.length).atMarker '-' = false ∧
      (r.advance key.toList.length).atMarker '.' = false := by
    simpa [Reader.atDocumentMarker] using hmarker
  have hscan : (b.behindKey r key).scanToken ':' after = (b.behindKey r key).mappingValue := by
    simp [Scanner.scanToken, behindKey, scanner, hmarkers, hafter]
  rw [hscan]
  unfold openKey
  rw [← h.column]
  split
  next hle =>
    simp [Scanner.mappingValue, behindKey, scanner, Scanner.insert, Scanner.openBlock,
      Scanner.pushMark, Scanner.push, push, hle]
  next hlt =>
    -- the mapping begins in front of the mark of the key
    have hcount : b.tokens.length + 1 + 1 - b.tokens.length = 2 := by omega
    simp [Scanner.mappingValue, behindKey, scanner, Scanner.insert, Scanner.openBlock,
      Scanner.pushMark, Scanner.push, push, hlt, Scanner.inFlow, hcount]

/-- A key is read with its colon, and a mapping is opened if it is the first key of one. -/
theorem leads_key (hkey : IsName key) (h : r.At column (key.toList ++ ':' :: after))
    (hafter : endsWord after = true) (hindent : b.indent ≤ column) :
    ∃ r', r'.At (column + key.toList.length + 1) after ∧
      ∀ u, ((b.openKey column key).scanner r' false).toToken = some u →
        u.reader.rest.length ≤ after.length → (b.scanner r true).Leads u := by
  obtain ⟨c, rest, hrest, hscan⟩ := scanToken_name (b := b) hkey h hafter
  refine ⟨(r.advance key.toList.length).advance 1, h.advance.advance_one, fun u hu hless => ?_⟩
  have hcolon : (b.behindKey r key).Leads u :=
    Scanner.leads_of_step h.advance.rest (scanToken_colon h hafter) hu hless
  refine (Scanner.leads_of_step hrest hscan (toToken_behindKey hkey h hindent) ?_).trans hcolon
  show (r.advance key.toList.length).rest.length ≤ rest.length
  have hlength := congrArg List.length hrest
  have hpos : 0 < key.toList.length := List.length_pos_iff.2 hkey.ne_nil
  rw [h.rest] at hlength
  rw [h.advance.rest]
  simp only [List.length_append, List.length_cons] at hlength ⊢
  omega

end Nest

end ClusterLifecycle.Yaml
