import Excerpt.Proofs.Lexeme

/-!
# Braces found byte by byte

`byteBraces` looks for the braces of the code in the UTF-8 bytes of the lines. It compares single bytes, looks one byte
ahead, and after a backslash skips one byte, whatever that byte belongs to. The scanner of the characters never looks
ahead: it remembers what it has read. `resume` says where the scanner of the bytes is when the other one is in a given
context, and one byte takes both to the next such place (`resume_cons`). No byte of a character outside ASCII is one of
those that are compared (`le_of_mem_utf8EncodeChar`), so the two find the same braces (`byteBraces_eq`).
-/

namespace Excerpt

namespace Text

/-- The UTF-8 form. -/
def bytes (t : Text) : List UInt8 := t.flatMap String.utf8EncodeChar

end Text

namespace Snippet

/-- What the scanner of the bytes is in. -/
inductive ByteContext where
  | code
  | blockComment
  | string (verbatim : Bool)
  | character
deriving DecidableEq, Repr, Inhabited

/-- What the scanner of the bytes does after a byte. -/
inductive ByteMove where
  | go (context : ByteContext)
  /-- Skips the next byte. -/
  | skip (context : ByteContext)
  /-- Leaves the rest of the line. -/
  | stop
deriving DecidableEq, Repr, Inhabited

namespace ByteContext

/-- Only block comments and verbatim strings go on past the end of a line. -/
def atLineStart : ByteContext → ByteContext
  | .string false | .character => .code
  | context => context

/-- What a byte does; `before` holds the bytes before it from right to left, and `ahead` is the next one. -/
def move (before : Text) (context : ByteContext) (b : Char) (ahead : Option Char) : ByteMove :=
  match context with
  | .code =>
    if b = '/' ∧ ahead = some '/' then .stop
    else if b = '/' ∧ ahead = some '*' then .skip .blockComment
    else if b = '"' then .go (.string (opensVerbatim before))
    else if b = '\'' then .go .character
    else .go .code
  | .blockComment => if b = '*' ∧ ahead = some '/' then .skip .code else .go .blockComment
  | .string true =>
    if b = '"' then (if ahead = some '"' then .skip (.string true) else .go .code) else .go (.string true)
  | .string false => if b = '\\' then .skip (.string false) else if b = '"' then .go .code else .go (.string false)
  | .character => if b = '\\' then .skip .character else if b = '\'' then .go .code else .go .character

end ByteContext

/-- What was found in the rest of a line, with the character at `column` before it if that is a brace of the code. -/
def reported {α : Type} (row column : Nat) (isCode : Bool) (c : Char) (found : List Brace × α) : List Brace × α :=
  if isCode && (c == '{' || c == '}') then (⟨row, column, c == '{'⟩ :: found.1, found.2) else found

/-- Scans the rest of line `row` from `column` on. A byte is read as the character with its value. -/
def scanBytes (row : Nat) (before : Text) (column : Nat) (context : ByteContext) :
    List UInt8 → List Brace × ByteContext
  | [] => ([], context)
  | b :: rest =>
    let c := Char.ofUInt8 b
    reported row column (context == .code) c <|
      match context.move before c (rest.head?.map Char.ofUInt8) with
      | .stop => ([], context)
      | .skip next =>
        match rest with
        | [] => ([], next)
        | skipped :: rest => scanBytes row (Char.ofUInt8 skipped :: c :: before) (column + 2) next rest
      | .go next => scanBytes row (c :: before) (column + 1) next rest

/-- Scans the lines from number `row` on. -/
def scanByteLines (row : Nat) (context : ByteContext) : List Text → List Brace
  | [] => []
  | line :: rest =>
    let (braces, context) := scanBytes row [] 0 context.atLineStart line.bytes
    braces ++ scanByteLines (row + 1) context rest

/-- The braces of the code, found byte by byte. -/
def byteBraces (lines : List Text) : List Brace := scanByteLines 0 .code lines

/-! ### Where the scanner of the bytes is -/

/-- What the scanner of the bytes does when the scanner of the characters is in a context: it has seen what is ahead. -/
def Context.pending (context : Context) (ahead : Option Char) : ByteMove :=
  match context with
  | .code => .go .code
  | .slash => if ahead = some '/' then .stop else if ahead = some '*' then .skip .blockComment else .go .code
  | .lineComment => .stop
  | .blockComment => .go .blockComment
  | .blockCommentStar => if ahead = some '/' then .skip .code else .go .blockComment
  | .string => .go (.string false)
  | .stringEscape => .skip (.string false)
  | .verbatimString => .go (.string true)
  | .verbatimQuote => if ahead = some '"' then .skip (.string true) else .go .code
  | .character => .go .character
  | .characterEscape => .skip .character

section
variable {context : Context} {here : ByteContext} {c : Char}

theorem move_code (before : Text) (c : Char) (ahead : Option Char) :
    ByteContext.code.move before c ahead = (Context.afterCode before c).pending ahead := by
  unfold ByteContext.move Context.afterCode
  by_cases hslash : c = '/'
  · simp [hslash, Context.pending]
  · by_cases hquote : c = '"'
    · cases opensVerbatim before <;> simp [hquote, Context.pending]
    · by_cases hcharacter : c = '\'' <;> simp [hslash, hquote, hcharacter, Context.pending]

theorem move_eq_pending (h : context.pending (some c) = .go here) (before : Text) (ahead : Option Char) :
    here.move before c ahead = (context.next before c).pending ahead := by
  have hcode := move_code before c ahead
  unfold Context.pending at h
  cases context with
  | code =>
    cases h
    exact hcode
  | slash =>
    simp only [Option.some.injEq] at h
    split_ifs at h with hline hblock
    cases h
    simpa [Context.next, hline, hblock] using hcode
  | verbatimQuote =>
    simp only [Option.some.injEq] at h
    split_ifs at h with hquote
    cases h
    simpa [Context.next, hquote] using hcode
  | blockComment | blockCommentStar | string | verbatimString | character =>
    grind [Context.next, ByteContext.move, Context.pending]
  | lineComment | stringEscape | characterEscape => cases h

theorem isCode_eq_of_pending (h : context.pending (some c) = .go here) : context.isCode = (here == .code) := by
  cases context <;> grind [Context.pending, Context.isCode]

theorem pending_next_of_skip (h : context.pending (some c) = .skip here) (before : Text) (ahead : Option Char) :
    (context.next before c).pending ahead = .go here ∧ (context.isCode → c ≠ '{' ∧ c ≠ '}') := by
  cases context <;> grind [Context.pending, Context.next, Context.isCode]

theorem pending_next_of_stop (h : context.pending (some c) = .stop) (before : Text) (ahead : Option Char) :
    (context.next before c).pending ahead = .stop ∧ (context.isCode → c ≠ '{' ∧ c ≠ '}') := by
  cases context <;> grind [Context.pending, Context.next, Context.isCode]

theorem eq_code_of_move_eq_stop {before : Text} {ahead : Option Char} (h : here.move before c ahead = .stop) :
    here = .code := by
  cases here with
  | code => rfl
  | string verbatim => cases verbatim <;> grind [ByteContext.move]
  | blockComment | character => grind [ByteContext.move]

end

section
variable (row : Nat) (before : Text) (column : Nat)

theorem reported_eq_self {α : Type} {isCode : Bool} {c : Char} (h : isCode → c ≠ '{' ∧ c ≠ '}')
    (found : List Brace × α) : reported row column isCode c found = found := by
  unfold reported
  rw [if_neg]
  cases isCode with
  | false => simp
  | true => simpa using h rfl

/-- Scans the rest of a line on which the scanner of the bytes is about to do something. -/
def scanMove (move : ByteMove) (bytes : List UInt8) : List Brace × ByteContext :=
  match move with
  | .stop => ([], .code)
  | .skip next =>
    match bytes with
    | [] => ([], next)
    | b :: rest => scanBytes row (Char.ofUInt8 b :: before) (column + 1) next rest
  | .go next => scanBytes row before column next bytes

theorem scanBytes_cons (context : ByteContext) (b : UInt8) (rest : List UInt8) :
    scanBytes row before column context (b :: rest) =
      reported row column (context == .code) (Char.ofUInt8 b)
        (scanMove row (Char.ofUInt8 b :: before) (column + 1)
          (context.move before (Char.ofUInt8 b) (rest.head?.map Char.ofUInt8)) rest) := by
  rw [scanBytes]
  congr 1
  split
  next h => rw [h, eq_code_of_move_eq_stop h]; rfl
  next h => rw [h]; cases rest <;> rfl
  next h => rw [h]; rfl

/-- Scans the rest of a line that the scanner of the characters reads in the given context. -/
def resume (context : Context) (bytes : List UInt8) : List Brace × ByteContext :=
  scanMove row before column (context.pending (bytes.head?.map Char.ofUInt8)) bytes

theorem resume_cons (context : Context) (b : UInt8) (rest : List UInt8) :
    resume row before column context (b :: rest) =
      reported row column context.isCode (Char.ofUInt8 b)
        (resume row (Char.ofUInt8 b :: before) (column + 1) (context.next before (Char.ofUInt8 b)) rest) := by
  unfold resume
  rw [List.head?_cons, Option.map_some]
  cases h : context.pending (some (Char.ofUInt8 b)) with
  | go here =>
    rw [isCode_eq_of_pending h, ← move_eq_pending h]
    exact scanBytes_cons row before column here b rest
  | skip here =>
    obtain ⟨hnext, hbrace⟩ := pending_next_of_skip h before (rest.head?.map Char.ofUInt8)
    rw [hnext, reported_eq_self row column hbrace]
    rfl
  | stop =>
    obtain ⟨hnext, hbrace⟩ := pending_next_of_stop h before (rest.head?.map Char.ofUInt8)
    rw [hnext, reported_eq_self row column hbrace]
    rfl

end

/-! ### Bytes of characters -/

theorem toNat_ofUInt8_ofNat (n : Nat) : (Char.ofUInt8 (UInt8.ofNat n)).toNat = n % 256 := by
  show (UInt8.ofNat n).toUInt32.toNat = n % 256
  simp

theorem utf8EncodeChar_of_ascii {c : Char} (h : c.toNat < 128) :
    (String.utf8EncodeChar c).map Char.ofUInt8 = [c] := by
  have hc : c.val.toNat < 128 := h
  rw [String.utf8EncodeChar, if_pos (by omega), List.map_singleton]
  refine congrArg (fun d => [d]) (Char.toNat_inj.1 ?_)
  rw [toNat_ofUInt8_ofNat, Nat.mod_eq_of_lt (by omega)]
  rfl

/-- Every byte of a character outside ASCII is at least 128. -/
theorem le_of_mem_utf8EncodeChar {c d : Char} (h : 128 ≤ c.toNat)
    (hd : d ∈ (String.utf8EncodeChar c).map Char.ofUInt8) : 128 ≤ d.toNat := by
  have hc : 128 ≤ c.val.toNat := h
  rw [String.utf8EncodeChar, if_neg (by omega)] at hd
  split_ifs at hd <;> simp only [List.map_cons, List.map_nil, List.mem_cons, List.not_mem_nil, or_false] at hd
  · rcases hd with rfl | rfl <;> rw [toNat_ofUInt8_ofNat] <;> omega
  · rcases hd with rfl | rfl | rfl <;> rw [toNat_ofUInt8_ofNat] <;> omega
  · rcases hd with rfl | rfl | rfl | rfl <;> rw [toNat_ofUInt8_ofNat] <;> omega

/-- The characters with the values of the bytes of a text, which is given from right to left. -/
def latin (before : Text) : Text := before.flatMap fun c => ((String.utf8EncodeChar c).map Char.ofUInt8).reverse

theorem latin_cons (c : Char) (before : Text) :
    latin (c :: before) = ((String.utf8EncodeChar c).map Char.ofUInt8).reverse ++ latin before := List.flatMap_cons

theorem latin_cons_of_ascii {c : Char} (h : c.toNat < 128) (before : Text) :
    latin (c :: before) = c :: latin before := by
  rw [latin_cons, utf8EncodeChar_of_ascii h]
  rfl

/-- What stands last in the bytes of a text that ends with a character outside ASCII is not in ASCII either. -/
theorem exists_latin_cons {c : Char} (h : 128 ≤ c.toNat) (before : Text) :
    ∃ d rest, latin (c :: before) = d :: rest ∧ 128 ≤ d.toNat := by
  have hne : (String.utf8EncodeChar c).map Char.ofUInt8 ≠ [] := by simp [String.utf8EncodeChar_ne_nil]
  obtain ⟨d, rest, hd⟩ := List.exists_cons_of_ne_nil (List.reverse_ne_nil_iff.2 hne)
  refine ⟨d, rest ++ latin before, by rw [latin_cons, hd, List.cons_append], le_of_mem_utf8EncodeChar h ?_⟩
  exact List.mem_reverse.1 (hd ▸ List.mem_cons_self)

theorem head?_latin_eq_iff {a : Char} (ha : a.toNat < 128) (before : Text) :
    (latin before).head? = some a ↔ before.head? = some a := by
  cases before with
  | nil => rfl
  | cons c before =>
    by_cases hc : c.toNat < 128
    · rw [latin_cons_of_ascii hc]
      simp
    · obtain ⟨d, rest, hd, hle⟩ := exists_latin_cons (Nat.le_of_not_lt hc) before
      have hda : d ≠ a := by rintro rfl; omega
      have hca : c ≠ a := by rintro rfl; omega
      simp [hd, hda, hca]

theorem opensVerbatim_latin (before : Text) : opensVerbatim (latin before) = opensVerbatim before := by
  cases before with
  | nil => rfl
  | cons c before =>
    rw [Bool.eq_iff_iff]
    by_cases hc : c.toNat < 128
    · rw [latin_cons_of_ascii hc, opensVerbatim_cons, opensVerbatim_cons, head?_latin_eq_iff (by decide)]
    · obtain ⟨d, rest, hd, hle⟩ := exists_latin_cons (Nat.le_of_not_lt hc) before
      have hne : ∀ a : Char, a.toNat < 128 → d ≠ a ∧ c ≠ a := by
        intro a ha
        constructor <;> rintro rfl <;> omega
      rw [hd, opensVerbatim_cons, opensVerbatim_cons]
      simp [hne '@' (by decide), hne '$' (by decide)]

namespace Context

theorem next_latin (before : Text) (context : Context) (c : Char) :
    context.next (latin before) c = context.next before c := by
  unfold next afterCode
  rw [opensVerbatim_latin]

/-- The context after a character that opens and closes nothing. -/
def pass : Context → Context
  | .slash | .verbatimQuote => .code
  | .blockCommentStar => .blockComment
  | .stringEscape => .string
  | .characterEscape => .character
  | context => context

theorem pass_pass (context : Context) : context.pass.pass = context.pass := by
  cases context <;> rfl

theorem next_eq_pass {c : Char} (h : 128 ≤ c.toNat) (before : Text) (context : Context) :
    context.next before c = context.pass := by
  have hne : ∀ a : Char, a.toNat < 128 → c ≠ a := by
    rintro a ha rfl
    omega
  have h₁ := hne '/' (by decide)
  have h₂ := hne '*' (by decide)
  have h₃ := hne '"' (by decide)
  have h₄ := hne '\'' (by decide)
  have h₅ := hne '\\' (by decide)
  cases context <;> simp [next, afterCode, pass, h₁, h₂, h₃, h₄, h₅]

/-- What the scanner of the bytes is in where a line ends in the context. -/
def settle (context : Context) : ByteContext :=
  match context.pending none with
  | .stop => .code
  | .skip next | .go next => next

end Context

section
variable (row : Nat)

theorem resume_nil (before : Text) (column : Nat) (context : Context) :
    resume row before column context [] = ([], context.settle) := by
  cases context <;> rfl

/-- Bytes that are not in ASCII are passed one by one. -/
theorem resume_append {bs : List UInt8} (hne : bs ≠ []) (h : ∀ b ∈ bs, 128 ≤ (Char.ofUInt8 b).toNat) (before : Text)
    (column : Nat) (context : Context) (rest : List UInt8) :
    resume row before column context (bs ++ rest) =
      resume row ((bs.map Char.ofUInt8).reverse ++ before) (column + bs.length) context.pass rest := by
  induction bs generalizing before column context with
  | nil => exact absurd rfl hne
  | cons b bs ih =>
    obtain ⟨hb, hbs⟩ := List.forall_mem_cons.1 h
    have hbrace : context.isCode → Char.ofUInt8 b ≠ '{' ∧ Char.ofUInt8 b ≠ '}' := by
      intro _
      constructor <;> intro hc <;> rw [hc] at hb <;> revert hb <;> decide
    rw [List.cons_append, resume_cons, reported_eq_self row column hbrace, Context.next_eq_pass hb]
    by_cases hnil : bs = []
    · subst hnil
      rfl
    · rw [ih hnil hbs, Context.pass_pass, List.map_cons, List.reverse_cons, List.append_assoc, List.length_cons,
        Nat.add_assoc, Nat.add_comm 1]
      rfl

theorem scanLine_cons (before : Text) (column : Nat) (context : Context) (c : Char) (t : Text) :
    scanLine row before column context (c :: t) =
      reported row column context.isCode c
        (scanLine row (c :: before) (column + c.utf8Size) (context.next before c) t) := rfl

theorem reported_map {α β : Type} (f : α → β) (column : Nat) (isCode : Bool) (c : Char) (found : List Brace × α) :
    reported row column isCode c (found.1, f found.2) =
      ((reported row column isCode c found).1, f (reported row column isCode c found).2) := by
  unfold reported
  split <;> rfl

/-- The bytes of a line are scanned as its characters are. -/
theorem resume_bytes (before : Text) (column : Nat) (context : Context) (t : Text) :
    resume row (latin before) column context t.bytes =
      ((scanLine row before column context t).1, (scanLine row before column context t).2.settle) := by
  induction t generalizing before column context with
  | nil => exact resume_nil row _ _ _
  | cons c t ih =>
    have hbytes : Text.bytes (c :: t) = String.utf8EncodeChar c ++ Text.bytes t := List.flatMap_cons
    have hlatin : ((String.utf8EncodeChar c).map Char.ofUInt8).reverse ++ latin before = latin (c :: before) :=
      (latin_cons c before).symm
    rw [hbytes, scanLine_cons, ← reported_map, ← ih]
    by_cases hc : c.toNat < 128
    · have hascii := utf8EncodeChar_of_ascii hc
      obtain ⟨b, hb, hbc⟩ := List.map_eq_singleton_iff.1 hascii
      have hsize : c.utf8Size = 1 := by rw [← String.length_utf8EncodeChar, hb, List.length_singleton]
      rw [hb, List.singleton_append, resume_cons, hbc, Context.next_latin, ← latin_cons_of_ascii hc, hsize]
    · have hle := Nat.le_of_not_lt hc
      have hbytes : ∀ b ∈ String.utf8EncodeChar c, 128 ≤ (Char.ofUInt8 b).toNat := fun b hb =>
        le_of_mem_utf8EncodeChar hle (List.mem_map_of_mem hb)
      have hbrace : context.isCode → c ≠ '{' ∧ c ≠ '}' := by
        intro _
        constructor <;> rintro rfl <;> exact hc (by decide)
      rw [resume_append row (String.utf8EncodeChar_ne_nil) hbytes, ← latin_cons, String.length_utf8EncodeChar,
        Context.next_eq_pass hle, reported_eq_self row column hbrace]

theorem scanBytes_atLineStart (context : Context) (line : Text) :
    scanBytes row [] 0 context.settle.atLineStart line.bytes =
      ((scanLine row [] 0 context.atLineStart line).1, (scanLine row [] 0 context.atLineStart line).2.settle) := by
  rw [← resume_bytes]
  cases context <;> rfl

theorem scanByteLines_eq (context : Context) (lines : List Text) :
    scanByteLines row context.settle lines = scanLines row context lines := by
  induction lines generalizing row context with
  | nil => rfl
  | cons line lines ih =>
    rw [scanByteLines, scanLines, scanBytes_atLineStart]
    dsimp only
    rw [ih]

end

theorem byteBraces_eq (lines : List Text) : byteBraces lines = codeBraces lines := scanByteLines_eq 0 .code lines

end Snippet

end Excerpt
