import ClusterLifecycle.Proofs.Json.Numbers
import ClusterLifecycle.Proofs.Json.Units

/-!
# Texts of JSON read back

A text is scanned into tokens, and the tokens are folded into a tree. Both work on what stands in
front of the rest: the scanner adds the tokens of a piece to those before (`Scans`), the builder
completes the value that was asked for (`Builds`). A number ends only where something else begins,
and what follows a value in a text never goes on with a number (`Scans.append`).

Main statement: `read?_of_writesItem` says that a text is read as the tree that it writes.
-/

namespace ClusterLifecycle.JsonSource

/-! ## Scanning -/

/-- The scanner behind some characters. -/
def scan (s : Scanner) (cs : List Char) : Option Scanner :=
  (cs.map some).foldlM Scanner.step s

theorem scan_nil (s : Scanner) : scan s [] = some s := rfl

theorem scan_cons (s : Scanner) (c : Char) (cs : List Char) :
    scan s (c :: cs) = (s.step (some c)).bind (scan · cs) := rfl

theorem scan_append (s : Scanner) (cs ds : List Char) :
    scan s (cs ++ ds) = (scan s cs).bind (scan · ds) := by
  rw [scan, List.map_append, List.foldlM_append]
  rfl

/-- The tokens up to here, if a token may end here. -/
def Scanner.found? (s : Scanner) : Option (List Token) :=
  match s.mode with
  | .between => some s.tokens
  | .number chars => (numberToken? chars).map (· :: s.tokens)
  | _ => none

theorem Scanner.finish?_eq (s : Scanner) : s.finish? = s.found?.map List.reverse := by
  obtain ⟨mode, tokens⟩ := s
  cases mode with
  | number => simp only [finish?, found?, Option.map_map]; rfl
  | between | word | string | escape | hex => rfl

/-- Where a token may end, a character that does not go on with a number begins the next one. -/
theorem Scanner.step_of_found? {s : Scanner} {tokens : List Token} {c : Char}
    (h : s.found? = some tokens) (hc : continuesNumber c = false) :
    s.step (some c) = begin tokens c := by
  obtain ⟨mode, before⟩ := s
  cases mode with
  | between =>
      obtain rfl := Option.some.inj h
      rfl
  | number chars =>
      obtain ⟨token, htoken, rfl⟩ := Option.map_eq_some_iff.1 h
      simp [step, hc, htoken]
  | word | string | escape | hex => cases h

/-- Between two tokens, the characters are scanned as the tokens. -/
def Scans (cs : List Char) (tokens : List Token) : Prop :=
  ∀ before, ∃ s, scan ⟨.between, before⟩ cs = some s ∧ s.found? = some (tokens.reverse ++ before)

theorem Scans.nil : Scans [] [] :=
  fun _ => ⟨_, rfl, rfl⟩

/-- What does not go on with a number may follow a token. -/
theorem Scans.append {cs ds : List Char} {tokens others : List Token} (h : Scans cs tokens)
    (h' : Scans ds others) (hds : ∀ c ∈ ds.head?, Scanner.continuesNumber c = false) :
    Scans (cs ++ ds) (tokens ++ others) := by
  intro before
  obtain ⟨s, hs, hfound⟩ := h before
  obtain ⟨s', hs', hfound'⟩ := h' (tokens.reverse ++ before)
  rw [List.reverse_append, List.append_assoc, scan_append, hs]
  cases ds with
  | nil =>
      obtain rfl := Option.some.inj hs'
      exact ⟨s, rfl, hfound.trans hfound'⟩
  | cons c ds =>
      refine ⟨s', ?_, hfound'⟩
      rw [Option.bind_some, scan_cons, Scanner.step_of_found? hfound (hds c rfl), ← hs']
      rfl

/-- A token of one character. -/
theorem Scans.cons {c : Char} {cs : List Char} {token : Token} {tokens : List Token}
    (hc : ∀ before, Scanner.begin before c = Scanner.emit before token) (h : Scans cs tokens) :
    Scans (c :: cs) (token :: tokens) := by
  intro before
  obtain ⟨s, hs, hfound⟩ := h (token :: before)
  have hstep : Scanner.step ⟨.between, before⟩ (some c) = some ⟨.between, token :: before⟩ :=
    hc before
  exact ⟨s, by rw [scan_cons, hstep, Option.bind_some, hs], by simpa using hfound⟩

/-! ## Blanks -/

theorem IsBlank.scans_append {blank cs : List Char} {tokens : List Token} (h : IsBlank blank)
    (hcs : Scans cs tokens) : Scans (blank ++ cs) tokens := by
  induction blank with
  | nil => exact hcs
  | cons c blank ih =>
      obtain ⟨hc, hblank⟩ := List.forall_mem_cons.1 h
      intro before
      obtain ⟨s, hs, hfound⟩ := ih hblank before
      refine ⟨s, ?_, hfound⟩
      have hstep : Scanner.step ⟨.between, before⟩ (some c) = some ⟨.between, before⟩ := by
        simp only [List.mem_cons, List.not_mem_nil, or_false] at hc
        rcases hc with rfl | rfl | rfl | rfl <;> rfl
      rw [List.cons_append, scan_cons, hstep, Option.bind_some, hs]

/-- Blanks do not go on with a number. -/
theorem IsBlank.head_append {blank cs : List Char} (h : IsBlank blank)
    (hcs : ∀ c ∈ cs.head?, Scanner.continuesNumber c = false) :
    ∀ c ∈ (blank ++ cs).head?, Scanner.continuesNumber c = false := by
  cases blank with
  | nil => exact hcs
  | cons b blank =>
      have hall : ∀ c ∈ [' ', '\n', '\t', '\r'], Scanner.continuesNumber c = false := by
        simp [Scanner.continuesNumber]
      intro c hc
      obtain rfl := Option.some.inj hc
      exact hall _ (h _ (.head _))

/-! ## Numbers -/

theorem continuesNumber_of_isDigit {c : Char} (h : c.isDigit = true) :
    Scanner.continuesNumber c = true := by
  simp [Scanner.continuesNumber, h]

theorem continuesNumber_of_mem_digitsText {digits : List Nat} (h : AreDigits digits) :
    ∀ c ∈ digitsText digits, Scanner.continuesNumber c = true :=
  fun c hc => continuesNumber_of_isDigit (isDigit_of_mem_digitsText h c hc)

theorem Exponent.continues {cs : List Char} {exponent : Option Int} (h : Exponent cs exponent) :
    ∀ c ∈ cs, Scanner.continuesNumber c = true := by
  have hall : ∀ e ∈ ['e', 'E'], Scanner.continuesNumber e = true := by
    simp [Scanner.continuesNumber]
  cases h with
  | absent => exact fun c hc => absurd hc List.not_mem_nil
  | unsigned he h =>
      exact List.forall_mem_cons.2 ⟨hall _ he, continuesNumber_of_mem_digitsText h⟩
  | plus he h | minus he h =>
      exact List.forall_mem_cons.2 ⟨hall _ he, List.forall_mem_cons.2
        ⟨rfl, continuesNumber_of_mem_digitsText h⟩⟩

theorem Fraction.continues {cs : List Char} {fraction : Option (List Nat)}
    (h : Fraction cs fraction) : ∀ c ∈ cs, Scanner.continuesNumber c = true := by
  cases h with
  | absent => exact fun c hc => absurd hc List.not_mem_nil
  | present h => exact List.forall_mem_cons.2 ⟨rfl, continuesNumber_of_mem_digitsText h⟩

/-- The characters of a number go on with it. -/
theorem IsNumber.continues {negative : Bool} {cs : List Char} {n : NumberText}
    (h : IsNumber negative cs n) : ∀ c ∈ cs, Scanner.continuesNumber c = true := by
  obtain ⟨hdigits, -, hf, he⟩ := h
  exact List.forall_mem_append.2 ⟨continuesNumber_of_mem_digitsText hdigits,
    List.forall_mem_append.2 ⟨hf.continues, he.continues⟩⟩

theorem scan_number {cs : List Char} (h : ∀ c ∈ cs, Scanner.continuesNumber c = true)
    (chars : List Char) (before : List Token) :
    scan ⟨.number chars, before⟩ cs = some ⟨.number (cs.reverse ++ chars), before⟩ := by
  induction cs generalizing chars with
  | nil => rfl
  | cons c cs ih =>
      obtain ⟨hc, hcs⟩ := List.forall_mem_cons.1 h
      have hstep : Scanner.step ⟨.number chars, before⟩ (some c) =
          some ⟨.number (c :: chars), before⟩ := if_pos hc
      rw [scan_cons, hstep, Option.bind_some, ih hcs, List.reverse_cons, List.append_assoc]
      rfl

/-- A number is scanned from its first character on. -/
theorem scans_number {c : Char} {cs : List Char} {n : NumberText}
    (hc : ∀ before, Scanner.begin before c = some ⟨.number [c], before⟩)
    (h : ∀ d ∈ cs, Scanner.continuesNumber d = true)
    (hn : NumberText.ofChars? (c :: cs) = some n) : Scans (c :: cs) [.num n] := by
  intro before
  have hstep : Scanner.step ⟨.between, before⟩ (some c) = some ⟨.number [c], before⟩ := hc before
  refine ⟨_, by rw [scan_cons, hstep, Option.bind_some, scan_number h], ?_⟩
  simp [Scanner.found?, Scanner.numberToken?, hn]

theorem begin_of_isDigit {c : Char} (h : c.isDigit = true) (before : List Token) :
    Scanner.begin before c = some ⟨.number [c], before⟩ := by
  unfold Scanner.begin
  split
  case h_16 => exact if_pos h
  all_goals exact absurd h (by decide)

/-! ## Strings -/

theorem hexDigitValue?_eq {c : Char} {d : Nat} (h : IsHexDigit c d) :
    Text.hexDigitValue? c = some d := by
  have hall : ∀ d : Fin 16, Text.hexDigitValue? (Nat.digitChar d) = some d.val ∧
      Text.hexDigitValue? (Nat.digitChar d).toUpper = some d.val := by decide
  obtain ⟨hd, rfl | rfl⟩ := h
  · exact (hall ⟨d, hd⟩).1
  · exact (hall ⟨d, hd⟩).2

theorem escaped?_eq {e c : Char} (h : (e, c) ∈ escapes) : e ≠ 'u' ∧ escaped? e = some c := by
  have hall : ∀ p ∈ escapes, p.1 ≠ 'u' ∧ escaped? p.1 = some p.2 := by decide
  exact hall _ h

/-- Inside a string, the characters are scanned as the pieces. -/
def ScansPieces (cs : List Char) (pieces : List Piece) : Prop :=
  ∀ done before, scan ⟨.string done, before⟩ cs = some ⟨.string (pieces.reverse ++ done), before⟩

theorem ScansPieces.append {cs ds : List Char} {pieces others : List Piece}
    (h : ScansPieces cs pieces) (h' : ScansPieces ds others) :
    ScansPieces (cs ++ ds) (pieces ++ others) := by
  intro done before
  rw [scan_append, h, Option.bind_some, h', List.reverse_append, List.append_assoc]

theorem scansPieces_char {c : Char} (hcontrol : 0x20 ≤ c.toNat) (hquote : c ≠ '"')
    (hbackslash : c ≠ '\\') : ScansPieces [c] [.char (some c)] := by
  intro done before
  have hstep : Scanner.step ⟨.string done, before⟩ (some c) =
      some ⟨.string (.char (some c) :: done), before⟩ := by
    simp [Scanner.step, hquote, hbackslash, Nat.not_lt.2 hcontrol]
  rw [scan_cons, hstep]
  rfl

theorem scansPieces_escape {e c : Char} (he : (e, c) ∈ escapes) :
    ScansPieces ['\\', e] [.char (some c)] := by
  intro done before
  obtain ⟨hu, hc⟩ := escaped?_eq he
  have hbackslash : Scanner.step ⟨.string done, before⟩ (some '\\') =
      some ⟨.escape done, before⟩ := rfl
  have hstep : Scanner.step ⟨.escape done, before⟩ (some e) =
      some ⟨.string (.char (some c) :: done), before⟩ := by
    simp [Scanner.step, hu, hc]
  rw [scan_cons, hbackslash, Option.bind_some, scan_cons, hstep]
  rfl

theorem scansPieces_unit {w x y z : Char} {k l m n : Nat} (hk : IsHexDigit w k)
    (hl : IsHexDigit x l) (hm : IsHexDigit y m) (hn : IsHexDigit z n) :
    ScansPieces ['\\', 'u', w, x, y, z] [.unit (((k * 16 + l) * 16 + m) * 16 + n)] := by
  intro done before
  have hu : scan ⟨.string done, before⟩ ['\\', 'u'] = some ⟨.hex done 4 0, before⟩ := rfl
  have hdigits : scan ⟨.hex done 4 0, before⟩ [w, x, y, z] =
      some ⟨.string (.unit (((k * 16 + l) * 16 + m) * 16 + n) :: done), before⟩ := by
    simp [scan_cons, scan_nil, Scanner.step, hexDigitValue?_eq hk, hexDigitValue?_eq hl,
      hexDigitValue?_eq hm, hexDigitValue?_eq hn]
  have hsplit : ['\\', 'u', w, x, y, z] = ['\\', 'u'] ++ [w, x, y, z] := rfl
  rw [hsplit, scan_append, hu, Option.bind_some, hdigits]
  rfl

/-- The characters between quotes are scanned as pieces with their units. -/
theorem Spells.exists_pieces {cs : List Char} {units : List Nat} (h : Spells cs units) :
    ∃ pieces : List Piece, (∀ piece ∈ pieces, piece.IsProper) ∧
      pieces.flatMap Piece.units = units ∧ ScansPieces cs pieces := by
  -- induction on how the text is spelled, one piece for each step
  induction h with
  | nil => exact ⟨[], by simp, rfl, fun _ _ => rfl⟩
  | @char c _ _ hcontrol hquote hbackslash _ ih =>
      obtain ⟨pieces, hproper, rfl, hscan⟩ := ih
      exact ⟨.char (some c) :: pieces, List.forall_mem_cons.2 ⟨rfl, hproper⟩, rfl,
        (scansPieces_char hcontrol hquote hbackslash).append hscan⟩
  | @escape _ c _ _ he _ ih =>
      obtain ⟨pieces, hproper, rfl, hscan⟩ := ih
      exact ⟨.char (some c) :: pieces, List.forall_mem_cons.2 ⟨rfl, hproper⟩, rfl,
        (scansPieces_escape he).append hscan⟩
  | @unit _ _ _ _ k l m n _ _ hk hl hm hn _ ih =>
      obtain ⟨pieces, hproper, rfl, hscan⟩ := ih
      -- four hexadecimal digits are never more than a unit
      have hlt : ((k * 16 + l) * 16 + m) * 16 + n < 0x10000 := by
        have hk' := hk.1
        have hl' := hl.1
        have hm' := hm.1
        have hn' := hn.1
        omega
      exact ⟨.unit (((k * 16 + l) * 16 + m) * 16 + n) :: pieces,
        List.forall_mem_cons.2 ⟨hlt, hproper⟩, rfl,
        (scansPieces_unit hk hl hm hn).append hscan⟩

theorem scans_string {cs : List Char} {units : List Nat} {s : Option String} (h : Spells cs units)
    (hs : Denotes units s) : Scans ('"' :: (cs ++ ['"'])) [.str s] := by
  intro before
  obtain ⟨pieces, hproper, rfl, hscan⟩ := h.exists_pieces
  have hopen : Scanner.step ⟨.between, before⟩ (some '"') = some ⟨.string [], before⟩ := rfl
  have hclose : scan ⟨.string pieces.reverse, before⟩ ['"'] =
      some ⟨.between, Scanner.stringToken pieces.reverse :: before⟩ := rfl
  refine ⟨_, by rw [scan_cons, hopen, Option.bind_some, scan_append, hscan, List.append_nil,
    Option.bind_some, hclose], ?_⟩
  simp [Scanner.found?, Scanner.stringToken, map_joinPieces hproper hs]

/-! ## Building -/

/-- The builder behind some tokens. -/
def build (b : Builder) (tokens : List Token) : Option Builder :=
  tokens.foldlM Builder.step b

theorem build_nil (b : Builder) : build b [] = some b := rfl

theorem build_cons (b : Builder) (token : Token) (tokens : List Token) :
    build b (token :: tokens) = (b.step token).bind (build · tokens) := rfl

theorem build_append (b : Builder) (tokens others : List Token) :
    build b (tokens ++ others) = (build b tokens).bind (build · others) := by
  rw [build, List.foldlM_append]
  rfl

/-- Where a value is asked for, the tokens complete it. -/
def Builds (tokens : List Token) (v : JsonSource) : Prop :=
  ∀ mayClose stack, build (.value mayClose stack) tokens = some (.after v stack)

/-- Inside an array, the tokens are those of further items up to the end of the last. -/
def BuildsItems (tokens : List Token) (items : List JsonSource) : Prop :=
  ∃ front last, items = front ++ [last] ∧ ∀ mayClose done stack,
    build (.value mayClose (.items done :: stack)) tokens =
      some (.after last (.items (front.reverse ++ done) :: stack))

/-- Inside an object, the tokens are those of a member up to the end of its value. -/
def BuildsMember (tokens : List Token) (member : Option String × JsonSource) : Prop :=
  ∀ mayClose done stack, build (.name mayClose done stack) tokens =
    some (.after member.2 (.members done member.1 :: stack))

/-- Inside an object, the tokens are those of further members up to the end of the last. -/
def BuildsMembers (tokens : List Token) (members : List (Option String × JsonSource)) : Prop :=
  ∃ front last, members = front ++ [last] ∧ ∀ mayClose done stack,
    build (.name mayClose done stack) tokens =
      some (.after last.2 (.members (front.reverse ++ done) last.1 :: stack))

section

variable {tokens others : List Token} {v : JsonSource} {items : List JsonSource}
  {name : Option String} {member : Option String × JsonSource}
  {members : List (Option String × JsonSource)}

theorem Builds.last (h : Builds tokens v) : BuildsItems tokens [v] :=
  ⟨[], v, rfl, fun mayClose _ _ => h mayClose _⟩

theorem Builds.cons (h : Builds tokens v) (h' : BuildsItems others items) :
    BuildsItems (tokens ++ .comma :: others) (v :: items) := by
  obtain ⟨front, last, rfl, hothers⟩ := h'
  refine ⟨v :: front, last, rfl, fun mayClose done stack => ?_⟩
  rw [build_append, h, Option.bind_some, build_cons, Builder.step, Option.bind_some, hothers,
    List.reverse_cons, List.append_assoc]
  rfl

theorem builds_emptyArr : Builds [.openArray, .closeArray] (.arr []) := by
  intro mayClose stack
  cases mayClose <;> rfl

theorem BuildsItems.arr (h : BuildsItems tokens items) :
    Builds (.openArray :: (tokens ++ [.closeArray])) (.arr items) := by
  obtain ⟨front, last, rfl, hitems⟩ := h
  intro mayClose stack
  rw [build_cons, Builder.step, Option.bind_some, build_append, hitems, Option.bind_some,
    build_cons, Builder.step, Option.bind_some, build_nil, List.append_nil, List.reverse_cons,
    List.reverse_reverse]

theorem Builds.named (h : Builds tokens v) :
    BuildsMember (.str name :: .colon :: tokens) (name, v) := by
  intro mayClose done stack
  rw [build_cons, Builder.step, Option.bind_some, build_cons, Builder.step, Option.bind_some, h]

theorem BuildsMember.last (h : BuildsMember tokens member) : BuildsMembers tokens [member] :=
  ⟨[], member, rfl, fun mayClose done stack => h mayClose done stack⟩

theorem BuildsMember.cons (h : BuildsMember tokens member) (h' : BuildsMembers others members) :
    BuildsMembers (tokens ++ .comma :: others) (member :: members) := by
  obtain ⟨front, last, rfl, hothers⟩ := h'
  refine ⟨member :: front, last, rfl, fun mayClose done stack => ?_⟩
  rw [build_append, h, Option.bind_some, build_cons, Builder.step, Option.bind_some, hothers,
    List.reverse_cons, List.append_assoc]
  rfl

theorem builds_emptyObj : Builds [.openObject, .closeObject] (.obj []) := by
  intro mayClose stack
  cases mayClose <;> rfl

theorem BuildsMembers.obj (h : BuildsMembers tokens members) :
    Builds (.openObject :: (tokens ++ [.closeObject])) (.obj members) := by
  obtain ⟨front, last, rfl, hmembers⟩ := h
  intro mayClose stack
  rw [build_cons, Builder.step, Option.bind_some, build_append, hmembers, Option.bind_some,
    build_cons, Builder.step, Option.bind_some, build_nil, List.append_nil, List.reverse_cons,
    List.reverse_reverse]

end

/-! ## Texts -/

/-- The characters are scanned as tokens of which something is built. -/
def Reads (builds : List Token → Prop) (cs : List Char) : Prop :=
  ∃ tokens, Scans cs tokens ∧ builds tokens

/-- A character that does not go on with a number may follow whatever was scanned. -/
theorem head_cons {c : Char} (hc : Scanner.continuesNumber c = false) (cs : List Char) :
    ∀ d ∈ (c :: cs).head?, Scanner.continuesNumber d = false := by
  intro d hd
  obtain rfl := Option.some.inj hd
  exact hc

theorem IsBlank.scans {blank : List Char} (h : IsBlank blank) : Scans blank [] := by
  rw [← List.append_nil blank]
  exact h.scans_append .nil

theorem IsBlank.head {blank : List Char} (h : IsBlank blank) :
    ∀ c ∈ blank.head?, Scanner.continuesNumber c = false := by
  rw [← List.append_nil blank]
  exact h.head_append fun c hc => by cases hc

theorem Scans.close {cs : List Char} {c : Char} {tokens : List Token} {token : Token}
    (h : Scans cs tokens) (hc : ∀ before, Scanner.begin before c = Scanner.emit before token)
    (hnumber : Scanner.continuesNumber c = false) : Scans (cs ++ [c]) (tokens ++ [token]) :=
  h.append (.cons hc .nil) (head_cons hnumber [])

mutual

theorem Writes.reads {cs : List Char} {v : JsonSource} : Writes cs v → Reads (Builds · v) cs
  | .null => ⟨[.null], fun _ => ⟨_, rfl, rfl⟩, fun _ _ => rfl⟩
  | .yes => ⟨[.bool true], fun _ => ⟨_, rfl, rfl⟩, fun _ _ => rfl⟩
  | .no => ⟨[.bool false], fun _ => ⟨_, rfl, rfl⟩, fun _ _ => rfl⟩
  | .num h => by
      -- the first digit begins the token, and all that follows goes on with it
      obtain ⟨c, rest, rfl, hc⟩ := h.exists_cons
      exact ⟨[.num _], scans_number (begin_of_isDigit hc) (List.forall_mem_cons.1 h.continues).2
        (ofChars?_of_isNumber h), fun _ _ => rfl⟩
  | .negative h => ⟨[.num _], scans_number (fun _ => rfl) h.continues
      (ofChars?_of_isNumber_negative h), fun _ _ => rfl⟩
  | .str h hs => ⟨[.str _], scans_string h hs, fun _ _ => rfl⟩
  | .emptyArr h => ⟨_, .cons (fun _ => rfl) (h.scans.close (fun _ => rfl) rfl), builds_emptyArr⟩
  | .arr h => by
      obtain ⟨tokens, hscans, hbuilds⟩ := h.reads
      exact ⟨_, .cons (fun _ => rfl) (hscans.close (fun _ => rfl) rfl), hbuilds.arr⟩
  | .emptyObj h => ⟨_, .cons (fun _ => rfl) (h.scans.close (fun _ => rfl) rfl), builds_emptyObj⟩
  | .obj h => by
      obtain ⟨tokens, hscans, hbuilds⟩ := h.reads
      exact ⟨_, .cons (fun _ => rfl) (hscans.close (fun _ => rfl) rfl), hbuilds.obj⟩

theorem WritesItems.reads {cs : List Char} {items : List JsonSource} :
    WritesItems cs items → Reads (BuildsItems · items) cs
  | .last h => by
      obtain ⟨tokens, hscans, hbuilds⟩ := h.reads
      exact ⟨tokens, hscans, hbuilds.last⟩
  | .cons h hrest => by
      obtain ⟨tokens, hscans, hbuilds⟩ := h.reads
      obtain ⟨others, hscans', hbuilds'⟩ := hrest.reads
      exact ⟨_, hscans.append (.cons (fun _ => rfl) hscans') (head_cons rfl _),
        hbuilds.cons hbuilds'⟩

theorem WritesItem.reads {cs : List Char} {v : JsonSource} :
    WritesItem cs v → Reads (Builds · v) cs
  | .spaced hbefore h hafter => by
      obtain ⟨tokens, hscans, hbuilds⟩ := h.reads
      -- blanks have no tokens, but those behind a number end it
      have hspaced := hbefore.scans_append (hscans.append hafter.scans hafter.head)
      exact ⟨tokens, by rwa [List.append_nil] at hspaced, hbuilds⟩

theorem WritesMembers.reads {cs : List Char} {members : List (Option String × JsonSource)} :
    WritesMembers cs members → Reads (BuildsMembers · members) cs
  | .last h => by
      obtain ⟨tokens, hscans, hbuilds⟩ := h.reads
      exact ⟨tokens, hscans, hbuilds.last⟩
  | .cons h hrest => by
      obtain ⟨tokens, hscans, hbuilds⟩ := h.reads
      obtain ⟨others, hscans', hbuilds'⟩ := hrest.reads
      exact ⟨_, hscans.append (.cons (fun _ => rfl) hscans') (head_cons rfl _),
        hbuilds.cons hbuilds'⟩

theorem WritesMember.reads {cs : List Char} {member : Option String × JsonSource} :
    WritesMember cs member → Reads (BuildsMember · member) cs
  | .named hbefore hcs hname hafter h => by
      obtain ⟨tokens, hscans, hbuilds⟩ := h.reads
      have hcolon : Scans (_ ++ ':' :: _) (.colon :: tokens) :=
        hafter.scans_append (.cons (fun _ => rfl) hscans)
      exact ⟨_, hbefore.scans_append ((scans_string hcs hname).append hcolon
        (hafter.head_append (head_cons rfl _))), hbuilds.named⟩

end

theorem read?_of_writesItem {cs : List Char} {v : JsonSource} (h : WritesItem cs v) :
    read? (cs.map some) = some v := by
  obtain ⟨tokens, hscans, hbuilds⟩ := h.reads
  obtain ⟨s, hs, hfound⟩ := hscans []
  have htokens : tokens? (cs.map some) = some tokens := by
    have hfinish : s.finish? = some tokens := by
      rw [Scanner.finish?_eq, hfound, Option.map_some, List.append_nil, List.reverse_reverse]
    exact (congrArg (·.bind Scanner.finish?) hs).trans hfinish
  have hbuild : build (.value false []) tokens = some (.after v []) := hbuilds false []
  rw [read?, htokens, Option.bind_some, ofTokens?, ← build, hbuild]
  rfl

end ClusterLifecycle.JsonSource
