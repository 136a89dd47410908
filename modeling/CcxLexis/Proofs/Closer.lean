import CcxLexis.Proofs.Ahead
import CcxLexis.Proofs.Spelling
import Mathlib.Order.Bounds.Defs
import Mathlib.Tactic.IntervalCases

/-!
# Where a block comment ends

A block comment ends with the first closer behind its opener.  The star of the opener is not part of
a closer, so the shortest comment has four bytes.  Whatever else is in the comment does not matter:
openers in it are text, and so are stars, up to the one with a slash behind it.  A comment without a
closer is malformed and takes up all that is left of the source.
-/

namespace CcxLexis

/-- The closer of the block comment with which the bytes begin stands at the index.  The first two
bytes are the opener, and the closer is behind them. -/
def ClosesAt (bytes : List Byte) (index : Nat) : Prop :=
  2 ≤ index ∧ bytes[index]? = some Byte.star ∧ bytes[index + 1]? = some Byte.slash

/-! ## Closers by their index -/

theorem commentCloser_infix_iff {bytes : List Byte} :
    commentCloser <:+: bytes ↔
      ∃ index, bytes[index]? = some Byte.star ∧ bytes[index + 1]? = some Byte.slash := by
  rw [List.infix_iff_getElem?]
  constructor
  · rintro ⟨index, -, hcloser⟩
    have hstar := hcloser 0 Nat.zero_lt_two
    have hslash := hcloser 1 Nat.one_lt_two
    rw [Nat.zero_add] at hstar
    rw [Nat.add_comm] at hslash
    exact ⟨index, hstar, hslash⟩
  · rintro ⟨index, hstar, hslash⟩
    have hlength : index + 1 < bytes.length := (List.getElem?_eq_some_iff.mp hslash).1
    have hcloser : commentCloser.length = 2 := rfl
    refine ⟨index, by omega, fun i hi => ?_⟩
    obtain rfl | rfl : i = 0 ∨ i = 1 := by omega
    · simpa [commentCloser] using hstar
    · simpa [commentCloser, Nat.add_comm] using hslash

theorem closesAt_opener_iff {body : List Byte} {index : Nat} :
    ClosesAt (commentOpener ++ body) (index + 2) ↔
      body[index]? = some Byte.star ∧ body[index + 1]? = some Byte.slash :=
  and_iff_right (Nat.le_add_left 2 index)

theorem exists_closesAt_iff {body : List Byte} :
    (∃ index, ClosesAt (commentOpener ++ body) index) ↔ commentCloser <:+: body := by
  rw [commentCloser_infix_iff]
  constructor
  · rintro ⟨index, hcloses⟩
    obtain ⟨index, rfl⟩ := Nat.exists_eq_add_of_le' hcloses.1
    exact ⟨index, closesAt_opener_iff.mp hcloses⟩
  · rintro ⟨index, hcloser⟩
    exact ⟨index + 2, closesAt_opener_iff.mpr hcloser⟩

/-- The bytes in front of the first closer hold none, so the comment ends there. -/
theorem closeComment?_of_isLeast {body : List Byte} {index : Nat}
    (h : IsLeast {i | ClosesAt (commentOpener ++ body) i} (index + 2)) :
    closeComment? body = some (body.take index, body.drop (index + 2)) := by
  obtain ⟨hstar, hslash⟩ := closesAt_opener_iff.mp h.1
  rw [closeComment?_eq_some_iff]
  constructor
  · have hsecond := List.drop_eq_getElem?_toList_append (l := body) (i := index + 1)
    have hfirst := List.drop_eq_getElem?_toList_append (l := body) (i := index)
    rw [hslash] at hsecond
    rw [hstar, hsecond] at hfirst
    nth_rewrite 1 [← List.take_append_drop index body]
    rw [hfirst, List.append_assoc]
    rfl
  · intro hcloser
    obtain ⟨earlier, hstar', hslash'⟩ := commentCloser_infix_iff.mp hcloser
    have hlt : earlier + 1 < index := by
      have hlength := (List.getElem?_eq_some_iff.mp hslash').1
      rw [List.length_take] at hlength
      omega
    rw [List.getElem?_take_of_lt (Nat.lt_of_succ_lt hlt)] at hstar'
    rw [List.getElem?_take_of_lt hlt] at hslash'
    have hleast : index + 2 ≤ earlier + 2 := h.2 (closesAt_opener_iff.mpr ⟨hstar', hslash'⟩)
    omega

/-- Stars behind a text without a closer make none. -/
theorem not_commentCloser_infix_append_stars {body : List Byte} (h : ¬commentCloser <:+: body)
    (count : Nat) : ¬commentCloser <:+: body ++ List.replicate count Byte.star := by
  induction count with
  | zero => simpa using h
  | succ count ih =>
    rw [List.replicate_succ', ← List.append_assoc, List.infix_concat_iff]
    rintro (hsuffix | hinfix)
    · have hlast := hsuffix.getLast (List.cons_ne_nil _ _)
      simp [commentCloser, Byte.star, Byte.slash] at hlast
    · exact ih hinfix

/-! ## The token of a block comment -/

namespace Scanner

variable {settings : Settings} {reader : Reader} {scanner : Scanner} {body text rest : List Byte}

theorem takes_blockComment (h : Becomes (start settings reader).value scanner)
    (hahead : scanner.ahead = commentOpener ++ body)
    (hclose : closeComment? body = some (text, rest)) :
    Takes settings .blockComment (commentOpener ++ text ++ commentCloser) rest scanner := by
  have hfirst : Piece.first Byte.slash (Byte.star :: body) =
      (⟨.blockComment, commentOpener ++ text ++ commentCloser⟩, rest) := by
    rw [Piece.first_opener, Piece.afterOpener, hclose]
    rfl
  exact takes_of_first h hahead hfirst (by decide) (by decide)

theorem takes_openComment (h : Becomes (start settings reader).value scanner)
    (hahead : scanner.ahead = commentOpener ++ body) (hopen : closeComment? body = none) :
    Takes settings .unknown (commentOpener ++ body) [] scanner := by
  have hfirst : Piece.first Byte.slash (Byte.star :: body) =
      (⟨.unknown, commentOpener ++ body⟩, []) := by
    rw [Piece.first_opener, Piece.afterOpener, hopen]
    rfl
  exact takes_of_first h hahead hfirst (by decide) (by decide)

/-- **A block comment ends with its first closer.**  Wherever the next token begins with the opener
of a block comment, under every limit: if a closer stands behind the opener, then the token is a
block comment and takes up exactly the bytes from the opener to the first closer.  If none does,
then the token is malformed, takes up all bytes, and no token is behind it.

So a comment has at least four bytes, since the star of the opener closes nothing.  And whatever
is between the opener and the first closer is text of the comment: other openers, and any number of
stars in front of the star of the closer. -/
theorem blockComment_ends_at_first_closer (settings : Settings) (reader : Reader)
    (scanner : Scanner) (h : Becomes (start settings reader).value scanner)
    (hopener : commentOpener <+: scanner.ahead) :
    (∀ index, IsLeast {i | ClosesAt scanner.ahead i} index →
      Takes settings .blockComment (scanner.ahead.take (index + 2))
        (scanner.ahead.drop (index + 2)) scanner) ∧
    ((∀ index, ¬ClosesAt scanner.ahead index) →
      Takes settings .unknown scanner.ahead [] scanner ∧
        ∀ later, Becomes scanner.next.2 later → later.next.1.token = Token.endOfInput) ∧
    (scanner.next.1.token.kind = .blockComment → 4 ≤ scanner.passage.text.length) ∧
    ∀ body count rest, ¬commentCloser <:+: body →
      scanner.ahead =
        commentOpener ++ (body ++ List.replicate count Byte.star) ++ commentCloser ++ rest →
      Takes settings .blockComment
        (commentOpener ++ (body ++ List.replicate count Byte.star) ++ commentCloser) rest
        scanner := by
  obtain ⟨body, hbody⟩ := hopener
  have hahead := hbody.symm
  refine ⟨?_, ?_, ?_, ?_⟩
  · intro index hleast
    rw [hahead] at hleast ⊢
    obtain ⟨index, rfl⟩ := Nat.exists_eq_add_of_le' hleast.1.1
    have hclose := closeComment?_of_isLeast hleast
    have hcomment : body.take (index + 2) = body.take index ++ commentCloser := by
      have hsplit := (closeComment?_eq_some_iff.mp hclose).1
      nth_rewrite 1 [← List.take_append_drop (index + 2) body] at hsplit
      exact List.append_cancel_right hsplit
    have htakes := takes_blockComment h hahead hclose
    rw [List.append_assoc, ← hcomment] at htakes
    exact htakes
  · intro hnone
    have hopen : closeComment? body = none := by
      rw [closeComment?_eq_none_iff, ← exists_closesAt_iff, not_exists, ← hahead]
      exact hnone
    have htakes := takes_openComment h hahead hopen
    rw [hahead]
    exact ⟨htakes, fun later => token_next_of_used_up (.next h) htakes.remaining_eq⟩
  · intro hkind
    cases hclose : closeComment? body with
    | none =>
      rw [(takes_openComment h hahead hclose).token_eq] at hkind
      cases hkind
    | some found =>
      rw [(takes_blockComment h hahead hclose).text_eq]
      simp only [commentOpener, commentCloser, List.length_append, List.length_cons,
        List.length_nil]
      omega
  · intro body count rest hcloser hahead
    rw [List.append_assoc, List.append_assoc, ← List.append_assoc _ commentCloser] at hahead
    exact takes_blockComment h hahead
      (closeComment?_complete rest (not_commentCloser_infix_append_stars hcloser count))

/-- The comment that begins with `/*/` goes on to the closer behind it, also where a limit of three
leaves no more than those three bytes to see. -/
theorem blockComment_ends_at_first_closer_slashBehindOpener :
    let scanner := (start (Settings.limitedTo {} ⟨3, by decide⟩)
      (Reader.ofBytes [0x2f, 0x2a, 0x2f, 0x2a, 0x2a, 0x2f, 0x78])).value
    commentOpener <+: scanner.ahead ∧ IsLeast {i | ClosesAt scanner.ahead i} 4 ∧
      scanner.next.1.token = ⟨.blockComment, "/*/", some "/*/"⟩ ∧
      scanner.next.2.remaining = [0x78] := by
  intro scanner
  have hahead : scanner.ahead = [0x2f, 0x2a, 0x2f, 0x2a, 0x2a, 0x2f, 0x78] := by cbv
  have hopener : commentOpener <+: scanner.ahead := by
    rw [hahead]
    exact List.prefix_append commentOpener _
  have hleast : IsLeast {i | ClosesAt scanner.ahead i} 4 := by
    rw [hahead]
    refine ⟨⟨by decide, rfl, rfl⟩, ?_⟩
    rintro index ⟨hbehind, hstar, hslash⟩
    by_contra hless
    rw [Nat.not_le] at hless
    interval_cases index
    · exact absurd hstar (by decide)
    · exact absurd hslash (by decide)
  have htakes := (blockComment_ends_at_first_closer _ _ scanner .refl hopener).1 4 hleast
  refine ⟨hopener, hleast, ?_, ?_⟩
  · rw [htakes.token_eq, hahead]
    rfl
  · rw [htakes.remaining_eq, hahead]
    rfl

end Scanner

end CcxLexis
