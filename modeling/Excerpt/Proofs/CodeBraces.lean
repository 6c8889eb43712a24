import Excerpt.Proofs.Lexeme

/-!
# The braces of a sequence of lexemes

`scanText` reads a text as a whole, line ends included; `codeBraces_lines` says that the scanner of the lines finds
the same braces. `Passes` says that a piece of text takes the scanner from one context to another and holds no brace
of the code. Every lexeme takes it from the code back to the code (`scanText_lexeme`), so the result for a whole text
is an induction on its lexemes.
-/

namespace Excerpt

namespace Text

variable {c : Char} {line t : Text}

theorem rawLines_cons_cases (hc : c ≠ '\n') (t : Text) :
    (t = [] ∧ rawLines (c :: t) = [[c]]) ∨
      ∃ line rest, rawLines t = line :: rest ∧ rawLines (c :: t) = (c :: line) :: rest := by
  cases h : rawLines t with
  | nil =>
    have ht : t = [] := by rw [← flatten_rawLines t, h, List.flatten_nil]
    exact .inl ⟨ht, by simp [rawLines, hc, ht]⟩
  | cons line rest => exact .inr ⟨line, rest, rfl, by rw [rawLines, if_neg hc, h]⟩

theorem ne_nil_of_mem_rawLines (h : line ∈ rawLines t) : line ≠ [] := by
  induction t generalizing line with
  | nil => simp at h
  | cons c t ih =>
    by_cases hc : c = '\n'
    · rw [rawLines, if_pos hc, List.mem_cons] at h
      rcases h with rfl | h
      · simp
      · exact ih h
    · rcases rawLines_cons_cases hc t with ⟨-, h'⟩ | ⟨first, rest, ht, h'⟩ <;> rw [h', List.mem_cons] at h
      · rcases h with rfl | h
        · simp
        · simp at h
      · rcases h with rfl | h
        · simp
        · exact ih (ht ▸ List.mem_cons_of_mem _ h)

theorem dropLineEnd_cons (hl : line ≠ []) (hc : ¬ (c = '\r' ∧ line = ['\n'])) :
    dropLineEnd (c :: line) = c :: dropLineEnd line := by
  obtain ⟨r, rfl⟩ : ∃ r, line = List.reverse r := ⟨line.reverse, by simp⟩
  unfold dropLineEnd
  rw [List.reverse_cons, List.reverse_reverse]
  rcases r with - | ⟨d, - | ⟨e, r⟩⟩
  · simp at hl
  · by_cases hd : d = '\n'
    · subst hd
      have hr : c ≠ '\r' := fun h => hc ⟨h, rfl⟩
      simp [hr]
    · simp [hd]
  · by_cases hd : d = '\n'
    · subst hd
      by_cases he : e = '\r' <;> simp [he]
    · simp [hd]

/-- A character that ends no line is a line of its own, or belongs to the line end after it, or stands at the head of
the first line. -/
theorem lines_cons_cases (hc : c ≠ '\n') (t : Text) :
    (t = [] ∧ lines (c :: t) = [[c]]) ∨ (c = '\r' ∧ ∃ rest, lines t = [] :: rest ∧ lines (c :: t) = [] :: rest) ∨
      ∃ line rest, lines t = line :: rest ∧ lines (c :: t) = (c :: line) :: rest := by
  unfold lines
  rcases rawLines_cons_cases hc t with ⟨ht, h⟩ | ⟨line, rest, ht, h⟩ <;> rw [h]
  · exact .inl ⟨ht, by simp [dropLineEnd, hc]⟩
  · rw [ht]
    by_cases hr : c = '\r' ∧ line = ['\n']
    · obtain ⟨rfl, rfl⟩ := hr
      exact .inr (.inl ⟨rfl, rest.map dropLineEnd, rfl, rfl⟩)
    · have hl : line ≠ [] := ne_nil_of_mem_rawLines (ht ▸ List.mem_cons_self)
      exact .inr (.inr ⟨dropLineEnd line, rest.map dropLineEnd, rfl, by rw [List.map_cons, dropLineEnd_cons hl hr]⟩)

theorem lines_lineFeed (t : Text) : lines ('\n' :: t) = [] :: lines t := rfl

end Text

namespace Snippet

/-! ### The scanner on a whole text -/

/-- The context after the character `c`, which may be a line feed. -/
def Context.read (before : Text) (context : Context) (c : Char) : Context :=
  if c = '\n' then context.atLineStart else context.next (lastLine before).reverse c

/-- Scans the text that stands after `before`. -/
def scanText (before : Text) (context : Context) : Text → List Brace
  | [] => []
  | c :: rest =>
    (if context.isCode then braceAfter before c else []) ++ scanText (before ++ [c]) (context.read before c) rest

/-- Scans the rest of the line that `before` ends with, and the lines after it. -/
def scanRest (before : Text) (context : Context) : List Text → List Brace
  | [] => []
  | line :: rest =>
    let (braces, context) :=
      scanLine (before.count '\n') (lastLine before).reverse (lastLine before).byteLength context line
    braces ++ scanLines (before.count '\n' + 1) context rest

variable {before t u rest : Text} {context context' context'' : Context} {c : Char}

theorem scanRest_nil_cons (ls : List Text) :
    scanRest before context ([] :: ls) = scanLines (before.count '\n' + 1) context ls := rfl

theorem scanRest_cons_cons (hc : c ≠ '\n') (line : Text) (ls : List Text) :
    scanRest before context ((c :: line) :: ls) = (if context.isCode then braceAfter before c else []) ++
      scanRest (before ++ [c]) (context.read before c) (line :: ls) := by
  have hrow : (before ++ [c]).count '\n' = before.count '\n' := by simp [hc]
  have hcol : (lastLine (before ++ [c])).byteLength = (lastLine before).byteLength + c.utf8Size := by
    simp [lastLine_concat hc]
  have hline : (lastLine (before ++ [c])).reverse = c :: (lastLine before).reverse := by simp [lastLine_concat hc]
  simp only [scanRest, scanLine, Context.read, if_neg hc, hrow, hcol, hline, braceAfter]
  cases context.isCode <;> by_cases hb : c = '{' ∨ c = '}' <;> simp [hb]

theorem scanLines_eq_scanRest (ls : List Text) :
    scanLines (before.count '\n' + 1) context ls = scanRest (before ++ ['\n']) context.atLineStart ls := by
  cases ls with
  | nil => rfl
  | cons line ls => simp [scanRest, scanLines]

theorem scanLines_congr (h : context.atLineStart = context'.atLineStart) (row : Nat) (ls : List Text) :
    scanLines row context ls = scanLines row context' ls := by
  cases ls <;> simp [scanLines, h]

theorem Context.atLineStart_read_carriageReturn :
    (context.read before '\r').atLineStart = context.atLineStart := by
  cases context <;> rfl

theorem scanRest_lines (before : Text) (context : Context) (t : Text) :
    scanRest before context t.lines = scanText before context t := by
  induction t generalizing before context with
  | nil => rfl
  | cons c t ih =>
    by_cases hc : c = '\n'
    · subst hc
      rw [Text.lines_lineFeed, scanRest_nil_cons, scanLines_eq_scanRest, ih]
      simp [scanText, braceAfter, Context.read]
    · rcases Text.lines_cons_cases hc t with ⟨rfl, h⟩ | ⟨rfl, ls, ht, h⟩ | ⟨line, ls, ht, h⟩ <;> rw [h, scanText]
      · rw [scanRest_cons_cons hc]
        rfl
      · -- the carriage return is no part of its line, and the context it leads to starts the next line alike
        rw [← ih, ht, scanRest_nil_cons, scanRest_nil_cons,
          scanLines_congr Context.atLineStart_read_carriageReturn]
        simp [braceAfter]
      · rw [scanRest_cons_cons hc, ← ht, ih]

theorem codeBraces_lines (t : Text) : codeBraces t.lines = scanText [] .code t := by
  rw [← scanRest_lines]
  unfold codeBraces scanRest
  cases t.lines <;> rfl

/-! ### Lexemes -/

/-- The text, read after `before`, takes the scanner from one context to the other, and holds no brace of the code. -/
def Passes (before : Text) (context : Context) (t : Text) (context' : Context) : Prop :=
  ∀ rest, scanText before context (t ++ rest) = scanText (before ++ t) context' rest

theorem passes_nil : Passes before context [] context := by
  intro rest
  rw [List.nil_append, List.append_nil]

theorem Passes.trans (ht : Passes before context t context') (hu : Passes (before ++ t) context' u context'') :
    Passes before context (t ++ u) context'' := by
  intro rest
  rw [List.append_assoc, ht, hu, List.append_assoc]

theorem passes_single (h : context.isCode → c ≠ '{' ∧ c ≠ '}') (hr : context.read before c = context') :
    Passes before context [c] context' := by
  intro rest
  have hb : (if context.isCode then braceAfter before c else []) = [] := by
    by_cases hi : context.isCode
    · simp [braceAfter, h hi]
    · simp [hi]
  show scanText before context (c :: rest) = _
  rw [scanText, hb, List.nil_append, hr]

theorem Passes.cons (h : context.isCode → c ≠ '{' ∧ c ≠ '}') (hr : context.read before c = context')
    (ht : Passes (before ++ [c]) context' t context'') : Passes before context (c :: t) context'' :=
  (passes_single h hr).trans ht

theorem Context.read_of_ne (hc : c ≠ '\n') : context.read before c = context.next (lastLine before).reverse c :=
  if_neg hc

/-- After a slash of the code that opens no comment the scanner goes on as in the code. -/
theorem scanText_slash (h₁ : ¬ ['/'] <+: t) (h₂ : ¬ ['*'] <+: t) :
    scanText before .slash t = scanText before .code t := by
  cases t with
  | nil => rfl
  | cons c t =>
    have hc₁ : c ≠ '/' := by rintro rfl; simp at h₁
    have hc₂ : c ≠ '*' := by rintro rfl; simp at h₂
    simp [scanText, Context.read, Context.next, Context.isCode, Context.atLineStart, hc₁, hc₂]

theorem scanText_verbatimQuote (h : ¬ ['"'] <+: t) :
    scanText before .verbatimQuote t = scanText before .code t := by
  cases t with
  | nil => rfl
  | cons c t =>
    have hc : c ≠ '"' := by rintro rfl; simp at h
    simp [scanText, Context.read, Context.next, Context.isCode, Context.atLineStart, hc]

theorem passes_lineComment (h : '\n' ∉ t) : Passes before .lineComment (t ++ ['\n']) .code := by
  induction t generalizing before with
  | nil => exact passes_single (by simp [Context.isCode]) rfl
  | cons c t ih =>
    obtain ⟨hc, ht⟩ := not_or.1 (List.mem_cons.not.1 h)
    exact .cons (by simp [Context.isCode]) (Context.read_of_ne (Ne.symm hc)) (ih ht)

theorem passes_blockComment_aux (t : Text) :
    (∀ before, ¬ ['*', '/'] <:+: t → Passes before .blockComment (t ++ ['*', '/']) .code) ∧
      ∀ before, ¬ ['*', '/'] <:+: '*' :: t → Passes before .blockCommentStar (t ++ ['*', '/']) .code := by
  -- both contexts at once: a star in the body leads from the first to the second, any other character back
  induction t with
  | nil =>
    refine ⟨fun before _ => ?_, fun before _ => ?_⟩ <;>
      exact .cons (by simp [Context.isCode]) rfl (passes_single (by simp [Context.isCode]) rfl)
  | cons c t ih =>
    have htail : ¬ ['*', '/'] <:+: c :: t → ¬ ['*', '/'] <:+: t := fun h ht => h (List.infix_cons ht)
    refine ⟨fun before h => ?_, fun before h => ?_⟩
    · by_cases hc : c = '*'
      · subst hc
        exact .cons (by simp [Context.isCode]) rfl (ih.2 _ h)
      · have hr : Context.read before .blockComment c = .blockComment := by
          simp [Context.read, Context.next, Context.atLineStart, hc]
        exact .cons (by simp [Context.isCode]) hr (ih.1 _ (htail h))
    · have hslash : c ≠ '/' := by rintro rfl; exact h ⟨[], t, rfl⟩
      have h' : ¬ ['*', '/'] <:+: c :: t := fun ht => h (List.infix_cons ht)
      by_cases hc : c = '*'
      · subst hc
        exact .cons (by simp [Context.isCode]) rfl (ih.2 _ h')
      · have hr : Context.read before .blockCommentStar c = .blockComment := by
          simp [Context.read, Context.next, Context.atLineStart, hc, hslash]
        exact .cons (by simp [Context.isCode]) hr (ih.1 _ (htail h'))

theorem passes_blockComment (h : ¬ ['*', '/'] <:+: t) : Passes before .blockComment (t ++ ['*', '/']) .code :=
  (passes_blockComment_aux t).1 before h

/-- The body of a literal on one line, for any two contexts that follow such a body. -/
theorem passes_escapedBody {quote : Char} (inside escape : Context) (hin : inside.isCode = false)
    (hes : escape.isCode = false) (hback : ∀ b, inside.next b '\\' = escape) (hescape : ∀ b c, escape.next b c = inside)
    (hplain : ∀ b c, c ≠ quote → c ≠ '\\' → inside.next b c = inside) (ht : EscapedBody quote t) :
    Passes before inside t inside := by
  induction ht generalizing before with
  | nil => exact passes_nil
  | plain hc hb hn ht ih => exact .cons (by simp [hin]) (by rw [Context.read_of_ne hn, hplain _ _ hc hb]) ih
  | escape hn ht ih =>
    refine .cons (by simp [hin]) (by rw [Context.read_of_ne (by decide), hback]) ?_
    exact .cons (by simp [hes]) (by rw [Context.read_of_ne hn, hescape]) ih

theorem passes_stringBody (ht : EscapedBody '"' t) : Passes before .string t .string :=
  passes_escapedBody .string .stringEscape rfl rfl (fun _ => rfl) (fun _ _ => rfl)
    (fun _ _ h h' => by simp [Context.next, h, h']) ht

theorem passes_characterBody (ht : EscapedBody '\'' t) : Passes before .character t .character :=
  passes_escapedBody .character .characterEscape rfl rfl (fun _ => rfl) (fun _ _ => rfl)
    (fun _ _ h h' => by simp [Context.next, h, h']) ht

theorem passes_string (ht : EscapedBody '"' t) : Passes before .string (t ++ ['"']) .code :=
  (passes_stringBody ht).trans (passes_single (by simp [Context.isCode]) rfl)

theorem passes_character (ht : EscapedBody '\'' t) : Passes before .character (t ++ ['\'']) .code :=
  (passes_characterBody ht).trans (passes_single (by simp [Context.isCode]) rfl)

theorem passes_verbatim (ht : VerbatimBody t) : Passes before .verbatimString (t ++ ['"']) .verbatimQuote := by
  induction ht generalizing before with
  | nil => exact passes_single (by simp [Context.isCode]) rfl
  | @plain c t hc ht ih =>
    have hr : Context.read before .verbatimString c = .verbatimString := by
      simp [Context.read, Context.next, Context.atLineStart, hc]
    exact .cons (by simp [Context.isCode]) hr ih
  | quote ht ih => exact .cons (by simp [Context.isCode]) rfl (.cons (by simp) rfl ih)

theorem Context.read_quote : Context.read before .code '"' =
    if ['@'] <:+ before ∨ ['@', '$'] <:+ before then .verbatimString else .string := by
  simp [Context.read, Context.next, Context.afterCode, opensVerbatim_lastLine]

theorem passes_stringQuote (h₁ : ¬ ['@'] <:+ before) (h₂ : ¬ ['@', '$'] <:+ before) :
    Passes before .code ['"'] .string :=
  passes_single (by simp) (by rw [Context.read_quote, if_neg (not_or.2 ⟨h₁, h₂⟩)])

theorem passes_dollarQuote (h : ¬ ['@'] <:+ before) : Passes before .code ['$', '"'] .string := by
  have hquote : Passes (before ++ ['$']) .code ['"'] .string := by
    refine passes_stringQuote ?_ ?_
    · rintro ⟨l, hl⟩
      simpa using List.append_inj_right' hl rfl
    · rintro ⟨l, hl⟩
      rw [← List.singleton_append, ← List.append_assoc] at hl
      exact h ⟨l, List.append_inj_left' hl rfl⟩
  exact .cons (by simp) rfl hquote

theorem passes_verbatimQuote (h : ['@'] <:+ before ∨ ['@', '$'] <:+ before) :
    Passes before .code ['"'] .verbatimString :=
  passes_single (by simp) (by rw [Context.read_quote, if_pos h])

theorem passes_opening {opening : Text} (h : opening ∈ [['@'], ['$', '@'], ['@', '$']]) :
    Passes before .code (opening ++ ['"']) .verbatimString := by
  simp only [List.mem_cons, List.not_mem_nil, or_false] at h
  rcases h with rfl | rfl | rfl
  · exact .cons (by simp) rfl (passes_verbatimQuote (.inl (List.suffix_append _ _)))
  · exact .cons (by simp) rfl (.cons (by simp) rfl (passes_verbatimQuote (.inl (List.suffix_append _ _))))
  · exact .cons (by simp) rfl (.cons (by simp) rfl (passes_verbatimQuote (.inr ⟨before, by simp⟩)))

/-- From the code, a lexeme takes the scanner back to the code. -/
theorem scanText_lexeme {e : Lexeme} (h : e.Fits before rest) :
    scanText before .code (e.text ++ rest) = e.brace before ++ scanText (before ++ e.text) .code rest := by
  cases e with
  | code c =>
    obtain ⟨hq, ha, hs⟩ := h
    show braceAfter before c ++ scanText (before ++ [c]) (Context.read before .code c) rest = _
    by_cases hc : c = '/'
    · subst hc
      exact congrArg _ (scanText_slash (hs rfl).1 (hs rfl).2)
    · have hr : Context.read before .code c = .code := by
        simp [Context.read, Context.next, Context.afterCode, Context.atLineStart, hq, ha, hc]
      rw [hr]
      rfl
  | lineComment body =>
    have hp : Passes before .code ('/' :: '/' :: (body ++ ['\n'])) .code :=
      .cons (by simp) rfl (.cons (by simp) rfl (passes_lineComment h))
    exact hp rest
  | blockComment body =>
    have hp : Passes before .code ('/' :: '*' :: (body ++ ['*', '/'])) .code :=
      .cons (by simp) rfl (.cons (by simp) rfl (passes_blockComment h))
    exact hp rest
  | string interpolated body =>
    obtain ⟨hbody, h₁, h₂⟩ := h
    cases interpolated with
    | false => exact (passes_stringQuote h₁ h₂).trans (passes_string hbody) rest
    | true =>
      have hp : Passes before .code (['$', '"'] ++ (body ++ ['"'])) .code :=
        (passes_dollarQuote h₁).trans (passes_string hbody)
      exact hp rest
  | verbatim opening body =>
    obtain ⟨hopening, hbody, hafter⟩ := h
    have hp : Passes before .code (opening ++ ['"'] ++ (body ++ ['"'])) .verbatimQuote :=
      (passes_opening hopening).trans (passes_verbatim hbody)
    have htext : (Lexeme.verbatim opening body).text = opening ++ ['"'] ++ (body ++ ['"']) := by simp [Lexeme.text]
    rw [htext, hp rest, scanText_verbatimQuote hafter]
    rfl
  | character body =>
    have hp : Passes before .code ('\'' :: (body ++ ['\''])) .code := .cons (by simp) rfl (passes_character h)
    exact hp rest

theorem scanText_lexemes {lexemes : List Lexeme} (h : Lexeme.Sequence before lexemes) :
    scanText before .code (lexemes.flatMap Lexeme.text) = Lexeme.braces before lexemes := by
  induction lexemes generalizing before with
  | nil => rfl
  | cons e rest ih =>
    obtain ⟨he, hrest⟩ := h
    rw [List.flatMap_cons, scanText_lexeme he, ih hrest]
    rfl

/-- The braces found in the lines of a text made of complete lexemes are the braces among its characters of code,
each with its row, its byte column and its kind, in the order of the text. -/
theorem codeBraces_lexemes {lexemes : List Lexeme} (h : Lexeme.Sequence [] lexemes) :
    codeBraces (Text.lines (lexemes.flatMap Lexeme.text)) = Lexeme.braces [] lexemes := by
  rw [codeBraces_lines, scanText_lexemes h]

/-- Every kind of lexeme, with braces inside and between them, on four lines. -/
def everyKind : List Lexeme :=
  [.code 'é', .code '{', .blockComment ['/', '{', '\n', '}', '*'], .code '/', .code '}', .lineComment ['{', '\r'],
    .string false ['\\', '"', '{'], .code '{', .string true ['{', 'x', '}'],
    .verbatim ['@', '$'] ['"', '"', '{', '\n', '}'], .code '}', .character ['\\', '\''], .character ['}']]

theorem sequence_everyKind : Lexeme.Sequence [] everyKind := by
  have hs : EscapedBody '"' ['\\', '"', '{'] :=
    .escape (by decide) (.plain (by decide) (by decide) (by decide) .nil)
  have hi : EscapedBody '"' ['{', 'x', '}'] :=
    .plain (by decide) (by decide) (by decide) (.plain (by decide) (by decide) (by decide)
      (.plain (by decide) (by decide) (by decide) .nil))
  have hv : VerbatimBody ['"', '"', '{', '\n', '}'] :=
    .quote (.plain (by decide) (.plain (by decide) (.plain (by decide) .nil)))
  have hc : EscapedBody '\'' ['}'] := .plain (by decide) (by decide) (by decide) .nil
  simp only [everyKind, Lexeme.Sequence, Lexeme.Fits, and_true]
  exact ⟨by decide, by decide, by decide, by decide, by decide, by decide, ⟨hs, by decide, by decide⟩, by decide,
    ⟨hi, by decide, by decide⟩, ⟨by decide, hv, by decide⟩, by decide, .escape (by decide) .nil, hc⟩

theorem codeBraces_everyKind : Lexeme.Sequence [] everyKind ∧
    codeBraces (Text.lines (everyKind.flatMap Lexeme.text)) =
      [⟨0, 2, true⟩, ⟨1, 5, false⟩, ⟨2, 5, true⟩, ⟨3, 2, false⟩] :=
  ⟨sequence_everyKind, (codeBraces_lexemes sequence_everyKind).trans (by decide)⟩

end Snippet

end Excerpt
