import CcxLexis.Proofs.Lossless
import CcxLexis.Session
import Mathlib

/-!
# Scanners side by side

A session carries out requests to any number of scanners in any order, and each request asks for
tokens in one of several ways.  This file shows that neither matters to the tokens: every scanner
hands out one stream, the tokens of its own source, and what is asked of one scanner changes no
answer of another.

`Served` says how one request is answered out of a stream of tokens, and `Serves` how a sequence of
requests is.  They know of no source and of no other scanner.  `Session.serves_exchanges` says that
the requests to one name are answered out of the tokens of its source, whatever is asked of the
other names in between.  The rest follows from the stream alone.
-/

namespace CcxLexis

/-! ## Requests and answers -/

/-- A request that leaves its scanner in place: for tokens, or for the failure. -/
def Request.isAsk : Request → Bool
  | start _ _ | finish => false
  | next | next? | rest | collect | failure? => true

/-- A request for all tokens that are left. -/
def Request.isDrain : Request → Bool
  | rest | collect => true
  | start _ _ | next | next? | failure? | finish => false

namespace Answer

def shown : Answer → List Token
  | token next _ => [next]
  | item next? _ => next?.toList
  | tokens all _ => all
  | started _ | failure _ | finished _ | noScanner => []

/-- The tokens that an answer hands out.  The one that reports the end is not one of them. -/
def handed (answer : Answer) : List Token :=
  answer.shown.filter fun token => !token.isEndOfInput

end Answer

/-- A request with its answer. -/
abbrev Exchange := Request × Answer

namespace Exchange

/-- The answer tells that no token is left: by the token that reports the end, by the absence of a
token, by stopping where all tokens are asked for, or by the last token of a list. -/
def ReportsEnd : Exchange → Prop
  | (.next, .token token _) => token.isEndOfInput = true
  | (.next?, .item token _) => token = none
  | (.rest, .tokens _ _) => True
  | (.collect, .tokens tokens _) => tokens.getLast? = some Token.endOfInput
  | _ => False

/-- The tokens handed out in a sequence of exchanges, in order. -/
def handedOut (exchanges : List Exchange) : List Token :=
  exchanges.flatMap fun exchange => exchange.2.handed

@[simp]
theorem handedOut_cons (exchange : Exchange) (exchanges : List Exchange) :
    handedOut (exchange :: exchanges) = exchange.2.handed ++ handedOut exchanges := rfl

end Exchange

open Exchange

/-! ## Streams -/

/-- How a request is answered out of a stream: the tokens that are left of the stream before it,
the request with its answer, and the tokens that are left behind it.  Which failure an answer shows
is left open. -/
inductive Served : List Token → Exchange → List Token → Prop
  | next (token : Token) (left : List Token) (failure : Option Fault) :
      Served (token :: left) (.next, .token token failure) left
  | nextAtEnd (failure : Option Fault) :
      Served [] (.next, .token Token.endOfInput failure) []
  | next? (token : Token) (left : List Token) (failure : Option Fault) :
      Served (token :: left) (.next?, .item (some token) failure) left
  | next?AtEnd (failure : Option Fault) : Served [] (.next?, .item none failure) []
  | rest (left : List Token) (failure : Option Fault) :
      Served left (.rest, .tokens left failure) []
  | collect (left : List Token) (failure : Option Fault) :
      Served left (.collect, .tokens (left ++ [Token.endOfInput]) failure) []
  | failure? (left : List Token) (failure : Option Fault) :
      Served left (.failure?, .failure failure) left

/-- How a sequence of requests is answered out of a stream, one after the other. -/
inductive Serves : List Token → List Exchange → List Token → Prop
  | nil (left : List Token) : Serves left [] left
  | cons {left middle after : List Token} {exchange : Exchange} {exchanges : List Exchange}
      (hfirst : Served left exchange middle) (hrest : Serves middle exchanges after) :
      Serves left (exchange :: exchanges) after

/-- No token of a stream reports the end.  The end is where the stream stops. -/
def EndFree (stream : List Token) : Prop :=
  ∀ token ∈ stream, token.isEndOfInput = false

section

variable {left after : List Token} {exchange : Exchange} {exchanges earlier later : List Exchange}

theorem filter_of_endFree (h : EndFree left) :
    (left.filter fun token => !token.isEndOfInput) = left :=
  List.filter_eq_self.mpr fun token htoken => by rw [h token htoken]; rfl

namespace Served

/-- What an answer hands out is taken from the front of the stream. -/
theorem handed_append (h : Served left exchange after) (hleft : EndFree left) :
    exchange.2.handed ++ after = left := by
  cases h with
  | next token left failure | next? token left failure =>
    simp [Answer.handed, Answer.shown, hleft token List.mem_cons_self]
  | nextAtEnd failure | next?AtEnd failure => rfl
  | rest left failure | collect left failure =>
    have hend : Token.endOfInput.isEndOfInput = true := rfl
    simp [Answer.handed, Answer.shown, filter_of_endFree hleft, hend]
  | failure? left failure => rfl

/-- The end is reported where nothing is left, and where everything that is left is asked for. -/
theorem reportsEnd_iff (h : Served left exchange after) (hleft : EndFree left) :
    ReportsEnd exchange ↔
      exchange.1 ≠ .failure? ∧ (left = [] ∨ exchange.1.isDrain = true) := by
  cases h with
  | next token left failure =>
    simp [ReportsEnd, Request.isDrain, hleft token List.mem_cons_self]
  | nextAtEnd failure => simp [ReportsEnd, Token.isEndOfInput, Token.endOfInput]
  | next? token left failure => simp [ReportsEnd, Request.isDrain]
  | next?AtEnd failure => simp [ReportsEnd]
  | rest left failure | collect left failure => simp [ReportsEnd, Request.isDrain]
  | failure? left failure => simp [ReportsEnd]

theorem eq_nil_of_reportsEnd (h : Served left exchange after) (hleft : EndFree left)
    (hend : ReportsEnd exchange) : after = [] := by
  obtain ⟨hask, hreached⟩ := (h.reportsEnd_iff hleft).mp hend
  cases h with
  | next token left failure | next? token left failure =>
    simp [Request.isDrain] at hreached
  | nextAtEnd failure | next?AtEnd failure | rest left failure | collect left failure => rfl
  | failure? left failure => exact absurd rfl hask

/-- Behind the end there is nothing but the end. -/
theorem eq_nil (h : Served [] exchange after) : after = [] := by
  cases h <;> rfl

end Served

namespace Serves

/-- What a sequence of answers hands out is taken from the front of the stream, in order. -/
theorem handedOut_append (h : Serves left exchanges after) (hleft : EndFree left) :
    handedOut exchanges ++ after = left := by
  induction h with
  | nil left => rfl
  | cons hfirst hrest ih =>
    have hhanded := hfirst.handed_append hleft
    have hmiddle : EndFree _ := fun token htoken =>
      hleft token (hhanded ▸ List.mem_append_right _ htoken)
    rw [handedOut_cons, List.append_assoc, ih hmiddle, hhanded]

theorem exists_of_append (h : Serves left (earlier ++ later) after) :
    ∃ middle, Serves left earlier middle ∧ Serves middle later after := by
  induction earlier generalizing left with
  | nil => exact ⟨left, .nil left, h⟩
  | cons exchange earlier ih =>
    cases h with
    | cons hfirst hrest =>
      obtain ⟨middle, hearlier, hlater⟩ := ih hrest
      exact ⟨middle, .cons hfirst hearlier, hlater⟩

/-- Once nothing is left, every further answer says so. -/
theorem served_nil_of_mem (h : Serves [] exchanges after) (hmem : exchange ∈ exchanges) :
    Served [] exchange [] := by
  induction exchanges with
  | nil => cases hmem
  | cons first exchanges ih =>
    cases h with
    | cons hfirst hrest =>
      obtain rfl := hfirst.eq_nil
      rcases List.mem_cons.mp hmem with rfl | hmem
      · exact hfirst
      · exact ih hrest hmem

end Serves

end

/-! ## The tokens of a source as a stream -/

theorem endFree_tokensIn (settings : Settings) (bytes : List Byte) :
    EndFree (tokensIn settings bytes) :=
  fun _ htoken => isEndOfInput_of_mem_tokensIn htoken

namespace Scanner

variable {settings : Settings} {bytes : List Byte} {scanner : Scanner}

theorem next_cases (h : IsAt settings [] bytes scanner) :
    (scanner.next.1.token = Token.endOfInput ∧ tokensIn settings bytes = [] ∧
        IsAt settings [] [] scanner.next.2) ∨
      ∃ rest, tokensIn settings bytes = scanner.next.1.token :: tokensIn settings rest ∧
        IsAt settings [] rest scanner.next.2 := by
  cases hnext : nextPiece? bytes with
  | none =>
    obtain ⟨htoken, hat⟩ := next_of_none h hnext
    exact .inl ⟨htoken, by rw [tokensIn, pieces_of_none hnext]; rfl, hat⟩
  | some found =>
    obtain ⟨htoken, hat⟩ := next_of_some h hnext
    refine .inr ⟨found.2, ?_, hat⟩
    rw [tokensIn, pieces_of_some hnext, List.map_cons, htoken]
    rfl

end Scanner

namespace Session

variable {session : Session} {name other : String} {request : Request} {settings : Settings}
  {bytes : List Byte} {scanner : Scanner}

/-- A request to a name is answered out of the tokens that its scanner has left. -/
theorem perform_served (hfind : session.find? name = some scanner)
    (hat : Scanner.IsAt settings [] bytes scanner) (hask : request.isAsk = true) :
    ∃ rest next, (session.perform name request).value.2.find? name = some next ∧
      Scanner.IsAt settings [] rest next ∧
      Served (tokensIn settings bytes) (request, (session.perform name request).value.1)
        (tokensIn settings rest) := by
  cases request with
  | start settings reader | finish => cases hask
  | next =>
    have hperform : (session.perform name .next).value =
        (.token scanner.next.1.token scanner.next.2.failure?,
          session.insert name scanner.next.2) := by simp [perform, hfind]
    rw [hperform]
    rcases Scanner.next_cases hat with ⟨htoken, hnil, hnext⟩ | ⟨rest, hcons, hnext⟩
    · refine ⟨[], _, find?_insert_self _ _ _, hnext, ?_⟩
      rw [hnil, htoken, tokensIn_nil]
      exact .nextAtEnd _
    · refine ⟨rest, _, find?_insert_self _ _ _, hnext, ?_⟩
      rw [hcons]
      exact .next _ _ _
  | next? =>
    have hperform : (session.perform name .next?).value =
        (.item (if scanner.next.1.token.isEndOfInput then none else some scanner.next.1.token)
          scanner.next.2.failure?, session.insert name scanner.next.2) := by
      simp [perform, hfind, Scanner.next?]
    rw [hperform]
    rcases Scanner.next_cases hat with ⟨htoken, hnil, hnext⟩ | ⟨rest, hcons, hnext⟩
    · refine ⟨[], _, find?_insert_self _ _ _, hnext, ?_⟩
      rw [hnil, htoken, tokensIn_nil]
      exact .next?AtEnd _
    · refine ⟨rest, _, find?_insert_self _ _ _, hnext, ?_⟩
      have hend : scanner.next.1.token.isEndOfInput = false :=
        endFree_tokensIn settings bytes _ (hcons ▸ List.mem_cons_self)
      rw [hcons, hend]
      exact .next? _ _ _
  | rest =>
    obtain ⟨htokens, hlast⟩ := Scanner.value_collect hat
    have hperform : (session.perform name .rest).value =
        (.tokens (scanner.collect.value.1.filter fun token => !token.isEndOfInput)
          scanner.collect.value.2.failure?, session.insert name scanner.collect.value.2) := by
      simp [perform, hfind, Scanner.rest]
    have hrest : (scanner.collect.value.1.filter fun token => !token.isEndOfInput) =
        tokensIn settings bytes := by
      rw [htokens]
      exact filter_tokensIn settings bytes
    refine ⟨[], _, by rw [hperform]; exact find?_insert_self _ _ _, hlast, ?_⟩
    rw [hperform, hrest, tokensIn_nil]
    exact .rest _ _
  | collect =>
    obtain ⟨htokens, hlast⟩ := Scanner.value_collect hat
    have hperform : (session.perform name .collect).value =
        (.tokens scanner.collect.value.1 scanner.collect.value.2.failure?,
          session.insert name scanner.collect.value.2) := by simp [perform, hfind]
    refine ⟨[], _, by rw [hperform]; exact find?_insert_self _ _ _, hlast, ?_⟩
    rw [hperform, htokens, tokensIn_nil]
    exact .collect _ _
  | failure? =>
    have hperform : (session.perform name .failure?).value =
        (.failure scanner.failure?, session) := by simp [perform, hfind]
    refine ⟨bytes, scanner, by rw [hperform]; exact hfind, hat, ?_⟩
    rw [hperform]
    exact .failure? _ _

/-- A request to one name leaves the scanner under any other name as it is. -/
theorem find?_perform_of_ne (h : other ≠ name) (request : Request) :
    (session.perform name request).value.2.find? other = session.find? other := by
  cases hfind : session.find? name <;> cases request <;>
    simp [perform, hfind, find?_insert_of_ne _ h, find?_erase_of_ne _ h]

/-- What a request is answered, and what it leaves under its name, depends on the scanner under
that name alone. -/
theorem perform_congr {session' : Session} (h : session.find? name = session'.find? name)
    (request : Request) :
    (session.perform name request).value.1 = (session'.perform name request).value.1 ∧
      (session.perform name request).value.2.find? name =
        (session'.perform name request).value.2.find? name := by
  cases hfind : session'.find? name <;> cases request <;> simp [perform, hfind, h]

/-! ## Runs -/

/-- The exchanges with one name when requests to all names are carried out in order. -/
def exchanges (session : Session) (name : String) (requests : List (String × Request)) :
    List Exchange :=
  ((requests.zip (session.run requests).value.1).filter fun entry => entry.1.1 == name).map
    fun entry => (entry.1.2, entry.2)

variable {requests : List (String × Request)}

theorem exchanges_cons_self (session : Session) (name : String) (request : Request)
    (requests : List (String × Request)) :
    session.exchanges name ((name, request) :: requests) =
      (request, (session.perform name request).value.1) ::
        (session.perform name request).value.2.exchanges name requests := by
  simp [exchanges, run]

theorem exchanges_cons_of_ne (session : Session) (h : other ≠ name) (request : Request)
    (requests : List (String × Request)) :
    session.exchanges name ((other, request) :: requests) =
      (session.perform other request).value.2.exchanges name requests := by
  simp [exchanges, run, h]

/-- The exchanges with one name are those that there would be without any other name. -/
theorem exchanges_congr {session' : Session} (h : session.find? name = session'.find? name)
    (requests : List (String × Request)) :
    session.exchanges name requests =
      session'.exchanges name (requests.filter fun request => request.1 == name) := by
  induction requests generalizing session session' with
  | nil => rfl
  | cons request requests ih =>
    obtain ⟨whom, request⟩ := request
    by_cases hwhom : whom = name
    · subst hwhom
      obtain ⟨hanswer, hfind⟩ := perform_congr h request
      rw [List.filter_cons_of_pos (by simp), exchanges_cons_self, exchanges_cons_self, hanswer,
        ih hfind]
    · rw [List.filter_cons_of_neg (by simpa using hwhom), exchanges_cons_of_ne session hwhom]
      exact ih ((find?_perform_of_ne (Ne.symm hwhom) request).trans h)

/-- The requests to a name are answered out of the tokens that its scanner has left, whatever is
asked of other names in between. -/
theorem serves_exchanges (hfind : session.find? name = some scanner)
    (hat : Scanner.IsAt settings [] bytes scanner)
    (hasks : ∀ request ∈ requests, request.1 = name → request.2.isAsk = true) :
    ∃ rest, Serves (tokensIn settings bytes) (session.exchanges name requests)
      (tokensIn settings rest) := by
  induction requests generalizing session scanner bytes with
  | nil => exact ⟨bytes, .nil _⟩
  | cons request requests ih =>
    obtain ⟨whom, request⟩ := request
    have hlater : ∀ request ∈ requests, request.1 = name → request.2.isAsk = true :=
      fun request hmem => hasks request (List.mem_cons_of_mem _ hmem)
    by_cases hwhom : whom = name
    · subst hwhom
      have hask : request.isAsk = true := hasks (whom, request) List.mem_cons_self rfl
      obtain ⟨middle, next, hnext, hat, hserved⟩ := perform_served hfind hat hask
      obtain ⟨rest, hserves⟩ := ih hnext hat hlater
      exact ⟨rest, by rw [exchanges_cons_self]; exact .cons hserved hserves⟩
    · rw [exchanges_cons_of_ne session hwhom]
      exact ih ((find?_perform_of_ne (Ne.symm hwhom) request).trans hfind) hat hlater

end Session

end CcxLexis
