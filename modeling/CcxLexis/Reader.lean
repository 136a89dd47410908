import CcxLexis.Byte
import CcxLexis.Fault

/-!
# Readers

A source is read in portions.  Each read ends in one of three ways: it delivers a portion of
bytes, it delivers nothing, which means that the source has ended, or it fails.  A reader is
given by the results that its reads will have, in order; after the last of them the source has
ended.

A reader hands out single bytes.  It finishes a portion before it looks at the next result, and
it repeats interrupted reads.  `Reader.remaining` is the view of a reader as the bytes that it
will hand out before its first end or failure.
-/

namespace CcxLexis

/-- The result of one read. -/
inductive ReadResult where
  | portion (bytes : List Byte)
  | failed (fault : Fault)
deriving DecidableEq, Repr

/-- What is left of the portion in hand, and the results of the reads to come. -/
structure Reader where
  portion : List Byte := []
  results : List ReadResult
deriving DecidableEq, Repr

/-- What a reader answers to the demand for one byte. -/
inductive Delivery where
  | byte (byte : Byte) (reader : Reader)
  | ended (reader : Reader)
  | failed (fault : Fault) (reader : Reader)
deriving DecidableEq, Repr

namespace ReadResult

/-- Reads until something other than an interruption results. -/
def deliver : List ReadResult → Delivery
  | [] => .ended { results := [] }
  | portion [] :: results => .ended { results }
  | portion (byte :: bytes) :: results => .byte byte { portion := bytes, results }
  | failed fault :: results =>
    if fault.isInterruption then deliver results else .failed fault { results }

/-- The bytes that a sequence of reads delivers before the first end or failure. -/
def bytes : List ReadResult → List Byte
  | [] => []
  | portion [] :: _ => []
  | portion (byte :: more) :: results => byte :: more ++ bytes results
  | failed fault :: results => if fault.isInterruption then bytes results else []

/-- The failure that a sequence of reads meets before an end, if it meets one. -/
def failure? : List ReadResult → Option Fault
  | [] => none
  | portion [] :: _ => none
  | portion (_ :: _) :: results => failure? results
  | failed fault :: results => if fault.isInterruption then failure? results else some fault

end ReadResult

namespace Reader

/-- Reading a text that is already in memory takes one read. -/
def ofBytes (bytes : List Byte) : Reader :=
  { results := [.portion bytes] }

/-- Demands one byte. -/
def next (reader : Reader) : Delivery :=
  match reader.portion with
  | byte :: bytes => .byte byte { reader with portion := bytes }
  | [] => ReadResult.deliver reader.results

/-- The bytes still to be handed out. -/
def remaining (reader : Reader) : List Byte :=
  reader.portion ++ ReadResult.bytes reader.results

/-! ## Demands and the view -/

theorem bytes_eq_of_deliver (results : List ReadResult) :
    match ReadResult.deliver results with
    | .byte byte reader => ReadResult.bytes results = byte :: reader.remaining
    | .ended _ => ReadResult.bytes results = []
    | .failed _ _ => ReadResult.bytes results = [] := by
  fun_induction ReadResult.deliver results with
  | case1 => rfl
  | case2 => rfl
  | case3 => rfl
  | case4 fault results h ih => simpa [ReadResult.bytes, h] using ih
  | case5 fault results h => simp [ReadResult.bytes, h]

theorem remaining_of_next_byte {reader rest : Reader} {byte : Byte}
    (h : reader.next = .byte byte rest) : reader.remaining = byte :: rest.remaining := by
  obtain ⟨portion, results⟩ := reader
  cases portion with
  | nil => simpa [next, remaining, show ReadResult.deliver results = _ from h] using
      bytes_eq_of_deliver results
  | cons b bs =>
    simp only [next, Delivery.byte.injEq] at h
    obtain ⟨rfl, rfl⟩ := h
    rfl

theorem remaining_of_next_ended {reader rest : Reader} (h : reader.next = .ended rest) :
    reader.remaining = [] := by
  obtain ⟨portion, results⟩ := reader
  cases portion with
  | nil => simpa [next, remaining, show ReadResult.deliver results = _ from h] using
      bytes_eq_of_deliver results
  | cons b bs => simp [next] at h

theorem remaining_of_next_failed {reader rest : Reader} {fault : Fault}
    (h : reader.next = .failed fault rest) : reader.remaining = [] := by
  obtain ⟨portion, results⟩ := reader
  cases portion with
  | nil => simpa [next, remaining, show ReadResult.deliver results = _ from h] using
      bytes_eq_of_deliver results
  | cons b bs => simp [next] at h

end Reader

end CcxLexis
