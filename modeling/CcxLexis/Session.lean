import CcxLexis.Scanner.Stream

/-!
# Sessions

A session holds any number of scanners, each under a name of its own and each with its own
source, and carries out requests to them in order.  Scanners share nothing, so a request to one
of them changes no other.
-/

namespace CcxLexis

/-- What can be asked of a named scanner. -/
inductive Request where
  | start (settings : Settings) (reader : Reader)
  | next
  | next?
  | rest
  | collect
  | failure?
  | finish

/-- What a session answers.  Every answer of a scanner shows the failure that has ended its
source by then. -/
inductive Answer where
  | started (failure : Option Fault)
  | token (token : Token) (failure : Option Fault)
  | item (token : Option Token) (failure : Option Fault)
  | tokens (tokens : List Token) (failure : Option Fault)
  | failure (failure : Option Fault)
  | finished (result : Except ScanFailure Unit)
  | noScanner

/-- Scanners under their names. -/
structure Session where
  scanners : List (String × Scanner) := []

namespace Session

def find? (session : Session) (name : String) : Option Scanner :=
  session.scanners.lookup name

def erase (session : Session) (name : String) : Session :=
  { scanners := session.scanners.filter fun entry => entry.1 != name }

/-- Puts a scanner under a name, in place of the one that was there. -/
def insert (session : Session) (name : String) (scanner : Scanner) : Session :=
  { scanners := (name, scanner) :: (session.erase name).scanners }

/-! ## Finding a scanner -/

section

variable (session : Session) {name other : String}

theorem lookup_filter_ne (entries : List (String × Scanner)) (h : other ≠ name) :
    (entries.filter fun entry => entry.1 != name).lookup other = entries.lookup other := by
  induction entries with
  | nil => rfl
  | cons entry entries ih =>
    by_cases hname : entry.1 = name
    · have hother : (other == entry.1) = false := by simpa [hname] using h
      rw [List.filter_cons_of_neg (by simp [hname]), ih, List.lookup_cons, hother]
    · rw [List.filter_cons_of_pos (by simp [hname]), List.lookup_cons, List.lookup_cons, ih]

@[simp]
theorem find?_erase_self (name : String) : (session.erase name).find? name = none := by
  refine List.lookup_eq_none_iff.mpr fun entry hentry => ?_
  have hname : entry.1 ≠ name := by simpa using (List.mem_filter.mp hentry).2
  simpa using hname.symm

theorem find?_erase_of_ne (h : other ≠ name) :
    (session.erase name).find? other = session.find? other :=
  lookup_filter_ne session.scanners h

@[simp]
theorem find?_insert_self (name : String) (scanner : Scanner) :
    (session.insert name scanner).find? name = some scanner := by
  simp [find?, insert]

theorem find?_insert_of_ne (h : other ≠ name) (scanner : Scanner) :
    (session.insert name scanner).find? other = session.find? other := by
  have hhead : (other == name) = false := by simpa using h
  rw [find?, insert, List.lookup_cons, hhead]
  exact find?_erase_of_ne session h

end

/-! ## Requests -/

/-- Carries out one request to the scanner of the given name. -/
def perform (session : Session) (name : String) (request : Request) : Logged (Answer × Session) :=
  match request, session.find? name with
  | .start settings reader, _ => do
    let scanner ← Scanner.start settings reader
    return (.started scanner.failure?, session.insert name scanner)
  | _, none => pure (.noScanner, session)
  | .next, some scanner =>
    let (scanned, scanner) := scanner.next
    ⟨(.token scanned.token scanner.failure?, session.insert name scanner), scanned.events⟩
  | .next?, some scanner => do
    let (token, scanner) ← scanner.next?
    return (.item token scanner.failure?, session.insert name scanner)
  | .rest, some scanner => do
    let (tokens, scanner) ← scanner.rest
    return (.tokens tokens scanner.failure?, session.insert name scanner)
  | .collect, some scanner => do
    let (tokens, scanner) ← scanner.collect
    return (.tokens tokens scanner.failure?, session.insert name scanner)
  | .failure?, some scanner => pure (.failure scanner.failure?, session)
  | .finish, some scanner => pure (.finished scanner.finishScan, session.erase name)

/-- Carries out requests in order, each addressed to a name. -/
def run (session : Session) : List (String × Request) → Logged (List Answer × Session)
  | [] => pure ([], session)
  | (name, request) :: requests => do
    let (answer, session) ← session.perform name request
    let (answers, session) ← session.run requests
    return (answer :: answers, session)

end Session

end CcxLexis
