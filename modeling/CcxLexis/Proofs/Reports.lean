import CcxLexis.Proofs.Ahead
import CcxLexis.Proofs.Restart
import CcxLexis.Proofs.RoundTrip
import CcxLexis.Proofs.Warnings

/-!
# What is reported of a token

The report of a token comes in three parts.  Warnings come first: that the lexeme is cut, and that
reading has failed, each at most once and in the order in which they happen.  Then comes what was
wrong with the token, if it is malformed (`Recovers`).  The token itself comes last.

What is said of a malformed token is decided by how it begins and is told where it ends, so each way
to begin a token is followed to its end once (`Scanner.tellsPiece_first`).  Over the life of a
scanner the reports of its tokens follow each other, and the failure that has stopped the source is
told of once (`Scanner.tellsFailure_of_lives`).
-/

namespace CcxLexis

/-! ## What has to be reported -/

/-- The report of a failure that shows after something was done and did not before. -/
def newFailureReport (before after : Option Fault) : List Event :=
  match before, after with
  | none, some fault => [.readFailed fault]
  | _, _ => []

/-- The report of a lexeme that is longer than the limit, if there is a limit. -/
def Settings.cutReport (settings : Settings) (lexeme : String) : List Event :=
  match settings.maxLexeme with
  | none => []
  | some limit => if limit.bytes < lexeme.length then [.lexemeTruncated limit] else []

/-- Whether an event reports a failure of the source. -/
def Event.isReadFailure : Event → Bool
  | .readFailed _ => true
  | _ => false

theorem Settings.filter_cutReport (settings : Settings) (lexeme : String) :
    (settings.cutReport lexeme).filter Event.isReadFailure = [] := by
  unfold cutReport
  split
  · rfl
  · split <;> rfl

section

variable {before after : Option Fault}

theorem filter_newFailureReport :
    (newFailureReport before after).filter Event.isReadFailure = newFailureReport before after := by
  unfold newFailureReport
  split <;> rfl

/-- A failure is reported at most once, so its report has no order. -/
theorem eq_newFailureReport_of_perm {events : List Event}
    (h : events.Perm (newFailureReport before after)) : events = newFailureReport before after := by
  unfold newFailureReport at h ⊢
  split at h
  · exact List.perm_singleton.mp h
  · exact List.perm_nil.mp h

end

/-- What is reported of a malformed token, by the text that it stands for in the source: the byte,
if it is a stray one, and otherwise what was opened there and never closed, with the text that the
token shows.  Of other tokens nothing is reported. -/
inductive Recovers (text : List Byte) (token : Token) : List Event → Prop
  | sound : token.kind ≠ .unknown → Recovers text token []
  | stray {byte : Byte} : token.kind = .unknown → text = [byte] → byte.IsStray →
      Recovers text token [.unrecognisedByte byte]
  | openComment : token.kind = .unknown → commentOpener <+: text →
      Recovers text token [.unterminatedComment token.value]
  | openQuotation {quotation : Quotation} : token.kind = .unknown → [quotation.mark] <+: text →
      Recovers text token [.unterminatedLiteral quotation.kind token.value]

section

variable {text : List Byte} {token : Token} {events : List Event}

theorem Recovers.map_level (h : Recovers text token events) :
    events.map Event.level = if token.kind = .unknown then [.debug] else [] := by
  cases h with
  | sound hkind => rw [if_neg hkind]; rfl
  | stray hkind | openComment hkind | openQuotation hkind => rw [if_pos hkind]; rfl

theorem Recovers.filter_isReadFailure (h : Recovers text token events) :
    events.filter Event.isReadFailure = [] := by
  cases h <;> rfl

end

namespace Piece

theorem singleton_prefix_written_first (byte : Byte) (bytes : List Byte) :
    [byte] <+: (first byte bytes).1.written := by
  have happend := written_first_append byte bytes
  cases hwritten : (first byte bytes).1.written with
  | nil => exact absurd hwritten (proper_first byte bytes).1
  | cons head more =>
    rw [hwritten] at happend
    rw [(List.cons.inj happend).1]
    exact List.prefix_append [byte] more

theorem commentOpener_prefix_written_afterOpener (bytes : List Byte) :
    commentOpener <+: (afterOpener bytes).1.written := by
  unfold afterOpener
  split <;> exact List.prefix_append commentOpener _

theorem shown_first_append {byte : Byte} {bytes : List Byte}
    (h : (first byte bytes).1.kind ≠ .lineComment) :
    (first byte bytes).1.shown ++ (first byte bytes).2 = byte :: bytes := by
  rw [← written_eq_shown h, written_first_append]

theorem kind_token_eq_unknown_iff (settings : Settings) (piece : Piece) :
    (piece.token settings).kind = .unknown ↔ piece.kind = .unknown := by
  by_cases hkeyword : piece.kind = .keyword
  · rw [token, Token.ofLexeme, shownKind, hkeyword]
    split <;> simp
  · rw [kind_token_of_ne_keyword settings hkeyword]

end Piece

/-! ## The first byte of a token -/

namespace Scanner

variable {settings : Settings} {scanner : Scanner} {mode mode' : Mode} {shown left rest : List Byte}
  {recovery : List Event} {moved : Logged Scanner} {byte : Byte}

/-- What is said of a token that ends inside a mode is what has to be said of it. -/
theorem recovers_complaint {text : List Byte} {token : Token}
    (h : token.kind = .unknown →
      (mode = .blockComment ∧ commentOpener <+: text) ∨
        ∃ quotation : Quotation, mode = .quotation quotation ∧ [quotation.mark] <+: text) :
    Recovers text token (if token.kind = .unknown then mode.complaint token.value else []) := by
  by_cases hkind : token.kind = .unknown
  · rw [if_pos hkind]
    rcases h hkind with ⟨rfl, hopener⟩ | ⟨quotation, rfl, hmark⟩
    · exact .openComment hkind hopener
    · exact .openQuotation hkind hmark
  · rw [if_neg hkind]
    exact .sound hkind

/-- A scanner in front of a piece: until the token that shows the piece is finished, it reports the
warnings that account for the piece and what has to be said of the token. -/
def TellsPiece (settings : Settings) (piece : Piece) (scanner : Scanner) : Prop :=
  ∃ recovery, Recovers piece.written (scanner.finishing .blanks).1 recovery ∧
    Tells settings .blanks piece.shown recovery scanner

/-- Moves that lead inside a token, and there to its end. -/
theorem tellsPiece_of_reading {found : Piece × List Byte}
    (hyields : Yields settings found (scanner.finishing .blanks))
    (hstep : scanner.step .blanks = Progress.reading mode <$> moved) (hwarns : scanner.Warns moved)
    (hmode : mode ≠ .blanks) (hamid : Amid settings (found.1.shown ++ found.2) moved.value)
    (hopened : found.1.kind = .unknown →
      (mode = .blockComment ∧ commentOpener <+: found.1.written) ∨
        ∃ quotation : Quotation, mode = .quotation quotation ∧
          [quotation.mark] <+: found.1.written) :
    TellsPiece settings found.1 scanner := by
  have hvalue : (scanner.step .blanks).value = .reading mode moved.value := by rw [hstep]; rfl
  have hrest := hyields.isAt.remaining_eq
  have htoken := hyields.token_eq
  rw [finishing_of_reading hvalue] at hrest htoken
  rw [TellsPiece, finishing_of_reading hvalue]
  refine ⟨_, recovers_complaint ?_, tells_of_reading hstep hwarns
    (tells_inside hmode hamid hrest)⟩
  rw [htoken, Piece.kind_token_eq_unknown_iff]
  exact hopened

/-- Moves that are a token by themselves. -/
theorem tellsPiece_of_finish {kind : Kind}
    (hstep : scanner.step .blanks = moved >>= fun now => ⟨now.finish kind, recovery⟩)
    (hwarns : scanner.Warns moved) (hat : IsAt settings shown left moved.value)
    (hrecovers : ∀ value, Recovers (Piece.written ⟨kind, shown⟩) (Token.ofLexeme kind value)
      recovery) : TellsPiece settings ⟨kind, shown⟩ scanner := by
  have hvalue : (scanner.step .blanks).value = moved.value.finish kind := by rw [hstep]; rfl
  rw [TellsPiece, finishing_of_finished hvalue]
  exact ⟨recovery, hrecovers _, tells_of_finish hstep hwarns hat⟩

/-! ### Slashes -/

theorem tellsPiece_lineComment (h : IsAt settings [] (Byte.slash :: Byte.slash :: left) scanner) :
    TellsPiece settings (Piece.afterSlash (Byte.slash :: left)).1 scanner := by
  have hyields := yields_slash h
  have hblank : Byte.slash.isBlank = false := by decide
  have hfollowing : scanner.lookFurther.value.cursor.following? = some Byte.slash := h.following?_eq
  let moved : Logged Scanner := do
    let scanner ← scanner.lookFurther
    let scanner ← scanner.advance
    scanner.advance
  have hstep : scanner.step .blanks = Progress.reading (.run .lineComment) <$> moved := by
    apply Logged.ext <;>
      simp [step, stepBlanks, stepSlash, h.current?_eq, hblank, hfollowing, moved]
  have hwarns : scanner.Warns moved :=
    (warns_lookFurther scanner).bind ((warns_advance _).bind (warns_advance _))
  have hamid : Amid settings left moved.value :=
    ⟨[], left, h.lookFurther.advance.advance, rfl⟩
  -- The slashes are consumed and not kept, so the comment shows only what is behind them.
  have hfound : Piece.afterSlash (Byte.slash :: left) =
      (⟨.lineComment, (Run.lineComment.split left).1⟩, (Run.lineComment.split left).2) := rfl
  rw [hfound] at hyields ⊢
  rw [← Run.lineComment.split_append left] at hamid
  exact tellsPiece_of_reading hyields hstep hwarns (by simp) hamid (by simp)

theorem tellsPiece_opener (h : IsAt settings [] (Byte.slash :: Byte.star :: left) scanner) :
    TellsPiece settings (Piece.afterSlash (Byte.star :: left)).1 scanner := by
  have hyields := yields_slash h
  have hblank : Byte.slash.isBlank = false := by decide
  have hne : Byte.star ≠ Byte.slash := by decide
  have hfollowing : scanner.lookFurther.value.cursor.following? = some Byte.star := h.following?_eq
  let moved : Logged Scanner := do
    let scanner ← scanner.lookFurther
    let scanner ← scanner.advance
    let scanner ← scanner.advance
    let scanner ← scanner.keep Byte.slash
    scanner.keep Byte.star
  have hstep : scanner.step .blanks = Progress.reading .blockComment <$> moved := by
    apply Logged.ext <;>
      simp [step, stepBlanks, stepSlash, h.current?_eq, hblank, hfollowing, hne, moved]
  have hwarns : scanner.Warns moved :=
    (warns_lookFurther scanner).bind ((warns_advance _).bind ((warns_advance _).bind
      ((warns_keep _ _).bind (warns_keep _ _))))
  have hamid : Amid settings (commentOpener ++ left) moved.value :=
    ⟨commentOpener, left,
      (h.lookFurther.advance.advance.keep Byte.slash).keep Byte.star, rfl⟩
  have hkind : (Piece.afterOpener left).1.kind ≠ .lineComment := by
    unfold Piece.afterOpener
    split <;> simp
  -- The opener is kept, so the comment shows all that it takes.
  have happend := Piece.written_afterOpener_append left
  rw [Piece.written_eq_shown hkind] at happend
  rw [show commentOpener ++ left = _ from happend.symm] at hamid
  rw [← Piece.first_slash, Piece.first_opener] at hyields ⊢
  exact tellsPiece_of_reading hyields hstep hwarns (by simp) hamid fun _ =>
    .inl ⟨rfl, Piece.commentOpener_prefix_written_afterOpener left⟩

theorem tellsPiece_lone_slash (h : IsAt settings [] (Byte.slash :: left) scanner)
    (hslash : left.head? ≠ some Byte.slash) (hstar : left.head? ≠ some Byte.star) :
    TellsPiece settings (Piece.afterSlash left).1 scanner := by
  have hblank : Byte.slash.isBlank = false := by decide
  have hfollowing := h.following?_eq
  let moved : Logged Scanner := do
    let scanner ← scanner.lookFurther
    scanner.take Byte.slash
  rw [← hfollowing] at hslash hstar
  have hstep : scanner.step .blanks = moved >>= fun now => ⟨now.finish .operator, []⟩ := by
    apply Logged.ext <;>
      simp [step, stepBlanks, stepSlash, h.current?_eq, hblank, hslash, hstar, moved]
  have hwarns : scanner.Warns moved := (warns_lookFurther scanner).bind (warns_take _ _)
  rw [hfollowing] at hslash hstar
  rw [Piece.afterSlash, if_neg hslash, if_neg hstar]
  exact tellsPiece_of_finish hstep hwarns (h.lookFurther.take Byte.slash)
    fun _ => .sound (by simp [Token.ofLexeme])

theorem tellsPiece_slash (h : IsAt settings [] (Byte.slash :: left) scanner) :
    TellsPiece settings (Piece.first Byte.slash left).1 scanner := by
  rw [Piece.first_slash]
  by_cases hslash : left.head? = some Byte.slash
  · obtain ⟨left, rfl⟩ := List.head?_eq_some_iff.mp hslash
    exact tellsPiece_lineComment h
  · by_cases hstar : left.head? = some Byte.star
    · obtain ⟨left, rfl⟩ := List.head?_eq_some_iff.mp hstar
      exact tellsPiece_opener h
    · exact tellsPiece_lone_slash h hslash hstar

/-! ### Other bytes -/

/-- The first byte of the token is taken, which leads inside the token. -/
theorem tellsPiece_of_take (h : IsAt settings [] (byte :: left) scanner)
    (hblank : byte.isBlank = false) (hkind : (Piece.first byte left).1.kind ≠ .lineComment)
    (hstep : scanner.step .blanks = Progress.reading mode <$> scanner.take byte)
    (hmode : mode ≠ .blanks)
    (hopened : (Piece.first byte left).1.kind = .unknown →
      ∃ quotation : Quotation, mode = .quotation quotation ∧ quotation.mark = byte) :
    TellsPiece settings (Piece.first byte left).1 scanner := by
  have hamid : Amid settings (byte :: left) (scanner.take byte).value :=
    ⟨[byte], left, h.take byte, rfl⟩
  rw [← Piece.shown_first_append hkind] at hamid
  refine tellsPiece_of_reading (yields_first h hblank) hstep (warns_take scanner byte)
    hmode hamid fun hunknown => .inr ?_
  obtain ⟨quotation, hquotation, rfl⟩ := hopened hunknown
  exact ⟨quotation, hquotation, Piece.singleton_prefix_written_first _ left⟩

theorem tellsPiece_mark {quotation : Quotation} (h : IsAt settings [] (byte :: left) scanner)
    (hblank : byte.isBlank = false) (hslash : byte ≠ Byte.slash)
    (hquotation : Quotation.ofFirst? byte = some quotation) :
    TellsPiece settings (Piece.first byte left).1 scanner := by
  have hmark := Quotation.eq_mark_of_ofFirst? hquotation
  have hkind : (Piece.first byte left).1.kind ≠ .lineComment := by
    rw [hmark, Piece.first_mark, Piece.afterMark]
    cases quotation <;> split <;> simp [Quotation.kind]
  have hstep : scanner.step .blanks =
      Progress.reading (.quotation quotation) <$> scanner.take byte := by
    apply Logged.ext <;> simp [step, stepBlanks, h.current?_eq, hblank, hslash, hquotation]
  exact tellsPiece_of_take h hblank hkind hstep (by simp) fun _ =>
    ⟨quotation, rfl, hmark.symm⟩

theorem tellsPiece_run {run : Run} (h : IsAt settings [] (byte :: left) scanner)
    (hblank : byte.isBlank = false) (hslash : byte ≠ Byte.slash)
    (hquotation : Quotation.ofFirst? byte = none) (hrun : Run.ofFirst? byte = some run) :
    TellsPiece settings (Piece.first byte left).1 scanner := by
  have hkinds : (Piece.first byte left).1.kind ≠ .lineComment ∧
      (Piece.first byte left).1.kind ≠ .unknown := by
    rw [Piece.first_of_run hrun, Piece.ofRun]
    cases run with
    | word => simp only [Run.kindOf]; split <;> simp
    | lineComment => exact absurd hrun (Run.ofFirst?_ne_lineComment byte)
    | number | operators => simp [Run.kindOf]
  have hstep : scanner.step .blanks = Progress.reading (.run run) <$> scanner.take byte := by
    apply Logged.ext <;> simp [step, stepBlanks, h.current?_eq, hblank, hslash, hquotation, hrun]
  exact tellsPiece_of_take h hblank hkinds.1 hstep (by simp) fun hunknown =>
    absurd hunknown hkinds.2

theorem tellsPiece_stray (h : IsAt settings [] (byte :: left) scanner) (hstray : byte.IsStray) :
    TellsPiece settings (Piece.first byte left).1 scanner := by
  obtain ⟨hblank, hslash, hquotation, hrun⟩ := (Byte.isStray_iff byte).mp hstray
  have hstep : scanner.step .blanks = scanner.take byte >>= fun now =>
      ⟨now.finish .unknown, [.unrecognisedByte byte]⟩ := by
    apply Logged.ext <;> simp [step, stepBlanks, h.current?_eq, hblank, hslash, hquotation, hrun]
  rw [Piece.first_of_isStray hstray]
  exact tellsPiece_of_finish hstep (warns_take scanner byte) (h.take byte)
    fun _ => .stray rfl rfl hstray

theorem tellsPiece_first (h : IsAt settings [] (byte :: left) scanner)
    (hblank : byte.isBlank = false) : TellsPiece settings (Piece.first byte left).1 scanner := by
  obtain ⟨rfl, -⟩ | ⟨quotation, hslash, hquotation, -⟩ | ⟨run, hslash, hquotation, hrun, -⟩ |
    ⟨hslash, hquotation, hrun, -⟩ := Piece.first_cases byte left
  · exact tellsPiece_slash h
  · exact tellsPiece_mark h hblank hslash hquotation
  · exact tellsPiece_run h hblank hslash hquotation hrun
  · exact tellsPiece_stray h ((Byte.isStray_iff byte).mpr ⟨hblank, hslash, hquotation, hrun⟩)

/-! ## Whole tokens -/

/-- What the token that comes next is to show when the given bytes are left. -/
def shownAhead (bytes : List Byte) : List Byte :=
  match nextPiece? bytes with
  | none => []
  | some (piece, _) => piece.shown

theorem value_tokenAhead_unlimited (bytes : List Byte) :
    (tokenAhead {} bytes).value = Byte.text (shownAhead bytes) := by
  unfold tokenAhead shownAhead
  cases nextPiece? bytes <;> rfl

/-- Between tokens, the blanks in front of the next token are skipped first. -/
theorem exists_tells_blanks (h : IsAt settings [] left scanner) :
    ∃ recovery, Recovers scanner.passage.text (scanner.finishing .blanks).1 recovery ∧
      Tells settings .blanks (shownAhead left) recovery scanner := by
  rw [passage_eq h]
  induction left generalizing scanner with
  | nil =>
    have hstep : scanner.step .blanks = pure (.finished Token.endOfInput scanner) := by
      simp [step, stepBlanks, h.current?_eq]
    have hvalue : (scanner.step .blanks).value = .finished Token.endOfInput scanner := by
      rw [hstep]
      rfl
    refine ⟨[], ?_, pure scanner, .refl scanner, h.settings_eq, h.lexeme_eq, ?_, ?_⟩
    · rw [finishing_of_finished hvalue]
      exact .sound (by simp [Token.endOfInput])
    · rw [finishing_of_finished hvalue]
      rfl
    · rw [finishToken_of_finished hvalue]
      exact congrArg Logged.events hstep
  | cons byte left ih =>
    cases hblank : byte.isBlank with
    | true =>
      have hstep : scanner.step .blanks = Progress.reading .blanks <$> scanner.advance := by
        simp [step, stepBlanks, h.current?_eq, hblank]
      have hvalue : (scanner.step .blanks).value = .reading .blanks scanner.advance.value := by
        rw [hstep]
        rfl
      have hskip : nextPiece? (byte :: left) = nextPiece? left := by
        simp [nextPiece?, hblank]
      have htext : (Passage.ahead settings (byte :: left)).text =
          (Passage.ahead settings left).text := by
        unfold Passage.ahead
        rw [hskip]
        cases nextPiece? left <;> rfl
      obtain ⟨recovery, hrecovers, htells⟩ := ih h.advance
      refine ⟨recovery, ?_, ?_⟩
      · rw [htext, finishing_of_reading hvalue]
        exact hrecovers
      · rw [shownAhead, hskip]
        exact tells_of_reading hstep (warns_advance scanner) htells
    | false =>
      have hfirst : nextPiece? (byte :: left) = some (Piece.first byte left) := by
        simp [nextPiece?, hblank]
      rw [Passage.ahead_of_some settings hfirst, shownAhead, hfirst]
      exact tellsPiece_first h hblank

/-- Between tokens only a failure has to be accounted for. -/
theorem warned_of_isAt (h : IsAt settings [] left scanner) :
    scanner.warned = failureReport scanner.failure? := by
  rw [warned, h.lexeme_eq, Lexeme.holding_nil]
  rfl

/-- A lexeme is cut when it is longer than the limit. -/
theorem warned_of_holding (hsettings : scanner.settings = settings)
    (hlexeme : scanner.lexeme = Lexeme.holding settings shown) :
    scanner.warned = settings.cutReport (Byte.text shown) ++ failureReport scanner.failure? := by
  rw [warned, hsettings, hlexeme]
  obtain ⟨_ | limit⟩ := settings
  · rfl
  · simp [Lexeme.holding, Settings.drops, Settings.cutReport, Byte.length_text]

theorem failureReport_next (scanner : Scanner) :
    failureReport scanner.failure? ++ newFailureReport scanner.failure? scanner.next.2.failure? =
      failureReport scanner.next.2.failure? := by
  cases hbefore : scanner.failure? with
  | none => cases scanner.next.2.failure? <;> rfl
  | some fault =>
    have hafter : scanner.next.2.failure? = some fault :=
      Cursor.failure?_of_moves hbefore (moves_next scanner)
    rw [hafter]
    rfl

/-- What is reported of the next token: warnings, what was wrong with it, and the token. -/
theorem exists_events_next (h : IsAt settings [] left scanner) :
    ∃ warnings recovery,
      scanner.next.1.events =
          warnings ++ recovery ++ [.scanned scanner.next.1.token.kind scanner.next.1.token.value] ∧
        warnings.Perm (settings.cutReport (Byte.text (shownAhead left)) ++
          newFailureReport scanner.failure? scanner.next.2.failure?) ∧
        Recovers scanner.passage.text scanner.next.1.token recovery := by
  obtain ⟨recovery, hrecovers, moved, hwarns, hsettings, hlexeme, hfailure, hreport⟩ :=
    exists_tells_blanks h
  refine ⟨moved.events, recovery, congrArg (· ++ _) hreport, ?_, hrecovers⟩
  have hafter : moved.value.failure? = scanner.next.2.failure? := hfailure
  rw [Warns, warned_of_isAt h, warned_of_holding hsettings hlexeme, hafter,
    ← failureReport_next scanner] at hwarns
  -- The failure that showed before stands on both sides, and is in front on one of them only.
  exact (List.perm_append_left_iff _).mp (hwarns.trans (List.perm_append_comm_assoc ..))

/-! ## The life of a scanner -/

/-- The reports of a scanner over its life, from its start on, by what it was asked for. -/
inductive Lives (settings : Settings) (reader : Reader) : List Event → Scanner → Prop
  | start : Lives settings reader (start settings reader).events (start settings reader).value
  | next {events : List Event} {now : Scanner} (h : Lives settings reader events now) :
      Lives settings reader (events ++ now.next.1.events) now.next.2
  | next? {events : List Event} {now : Scanner} (h : Lives settings reader events now) :
      Lives settings reader (events ++ now.next?.events) now.next?.value.2
  | collect {events : List Event} {now : Scanner} (h : Lives settings reader events now) :
      Lives settings reader (events ++ now.collect.events) now.collect.value.2
  | rest {events : List Event} {now : Scanner} (h : Lives settings reader events now) :
      Lives settings reader (events ++ now.rest.events) now.rest.value.2

theorem becomes_of_lives {reader : Reader} {events : List Event}
    (h : Lives settings reader events scanner) : Becomes (start settings reader).value scanner := by
  induction h with
  | start => exact .refl
  | next _ ih => exact .next ih
  | next? _ ih => exact .next? ih
  | collect _ ih => exact .collect ih
  | rest _ ih => exact .rest ih

/-- Reports that tell of the failure that has stopped the source, once, and of none before it
shows. -/
def TellsFailure (events : List Event) (scanner : Scanner) : Prop :=
  events.filter Event.isReadFailure = failureReport scanner.failure?

theorem tellsFailure_next {events : List Event} (hat : IsAt settings [] left scanner)
    (h : TellsFailure events scanner) :
    TellsFailure (events ++ scanner.next.1.events) scanner.next.2 := by
  obtain ⟨warnings, recovery, hevents, hwarnings, hrecovers⟩ := exists_events_next hat
  have hfiltered := hwarnings.filter Event.isReadFailure
  rw [List.filter_append, Settings.filter_cutReport, filter_newFailureReport, List.nil_append]
    at hfiltered
  rw [TellsFailure, List.filter_append, h, hevents, List.filter_append, List.filter_append,
    hrecovers.filter_isReadFailure, eq_newFailureReport_of_perm hfiltered, List.append_nil]
  exact (congrArg _ (List.append_nil _)).trans (failureReport_next scanner)

theorem tellsFailure_drainInto {events : List Event} (handed : Array Scanned) (scanner : Scanner)
    (hat : ∃ left, IsAt settings [] left scanner)
    (h : TellsFailure (events ++ handed.toList.flatMap Scanned.events) scanner) :
    TellsFailure (events ++ (scanner.drainInto handed).1.toList.flatMap Scanned.events)
      (scanner.drainInto handed).2 := by
  fun_induction drainInto handed scanner with
  | case1 handed scanner result hend =>
    obtain ⟨left, hat⟩ := hat
    simpa [result] using tellsFailure_next hat h
  | case2 handed scanner result hend ih =>
    obtain ⟨left, hat⟩ := hat
    exact ih ⟨_, isAt_next hat⟩ (by simpa [result] using tellsFailure_next hat h)

theorem tellsFailure_collect {events : List Event} (hat : IsAt settings [] left scanner)
    (h : TellsFailure events scanner) :
    TellsFailure (events ++ scanner.collect.events) scanner.collect.value.2 :=
  tellsFailure_drainInto #[] scanner ⟨left, hat⟩ (by simpa using h)

theorem events_start (settings : Settings) (reader : Reader) :
    (start settings reader).events =
      newFailureReport none (start settings reader).value.failure? := by
  calc
    (start settings reader).events = (Cursor.demand { reader }).events := by
      simp [start, Cursor.start]
    _ = failureReport (start settings reader).value.failure? :=
      Cursor.failureReport_demand { reader }
    _ = newFailureReport none (start settings reader).value.failure? := by
      cases (start settings reader).value.failure? <;> rfl

theorem tellsFailure_start (settings : Settings) (reader : Reader) :
    TellsFailure (start settings reader).events (start settings reader).value := by
  rw [TellsFailure, events_start, filter_newFailureReport]
  cases (start settings reader).value.failure? <;> rfl

theorem tellsFailure_of_lives {reader : Reader} {events : List Event}
    (h : Lives settings reader events scanner) : TellsFailure events scanner := by
  induction h with
  | start => exact tellsFailure_start settings reader
  | next h ih => exact tellsFailure_next (isAt_of_becomes_start (becomes_of_lives h)) ih
  | next? h ih => exact tellsFailure_next (isAt_of_becomes_start (becomes_of_lives h)) ih
  | collect h ih => exact tellsFailure_collect (isAt_of_becomes_start (becomes_of_lives h)) ih
  | @rest events now h ih =>
    have hsame : now.rest.events = now.collect.events := List.append_nil _
    rw [hsame]
    exact tellsFailure_collect (isAt_of_becomes_start (becomes_of_lives h)) ih

/-- A quotation that is cut and then broken off by a failure: the failure shows behind the cut. -/
example : (start (Settings.limitedTo {} ⟨1, by decide⟩)
      { results := [.portion [0x22, 0x61], .failed (.system 5)] }).value.next.1.events =
    [.lexemeTruncated ⟨1, by decide⟩, .readFailed (.system 5),
      .unterminatedLiteral .string "\"", .scanned .unknown "\""] := by
  cbv

end Scanner

end CcxLexis
