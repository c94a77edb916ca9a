import ServiceBootstrap.Failure.InputOutput
import ServiceBootstrap.Hello.Request
import ServiceBootstrap.Hello.Response
import ServiceBootstrap.Text.Utf8

/-!
Serving one connection: read the head of the request, write the response, close.

A connection is anything that can be read from, written to and closed, each time moving on to its
next state. Reading ends with the first read that completes an empty line anywhere in what has
been read, brings the total to `headLimit` or more, or gives nothing. A write that was interrupted
is tried again; any other failure ends the connection, that of an interrupted read too.
-/

namespace ServiceBootstrap.Hello

/-- The operations of a connection whose states are of type `σ`. -/
structure Wire (σ : Type) where
  /-- Gives some of the bytes that came in; none at the end of the stream. -/
  read : σ → Except IoFailure (List UInt8) × σ
  /-- Takes some of the bytes, and tells how many. -/
  write : List UInt8 → σ → Except IoFailure Nat × σ
  close : σ → Except IoFailure Unit × σ
  /-- The most writes in a row that are interrupted from here on. -/
  interruptions : σ → Nat
  interruptions_lt : ∀ {bytes s e s'}, write bytes s = (.error e, s') → e.kind = .interrupted →
    interruptions s' < interruptions s

/-- Enough for the head of any request that is served. -/
def headLimit : Nat := 8 * 1024

/-- The most bytes one read gives. -/
def readLimit : Nat := 1024

def blankLine : List UInt8 := [13, 10, 13, 10]

/-- Whether an empty line ends somewhere in the bytes. -/
def hasBlankLine : List UInt8 → Bool
  | [] => false
  | b :: bs => blankLine.isPrefixOf (b :: bs) || hasBlankLine bs

/-- Whether nothing more is read behind these bytes. -/
def headEnds (head : List UInt8) : Bool := hasBlankLine head || headLimit ≤ head.length

theorem hasBlankLine_iff {bs : List UInt8} : hasBlankLine bs ↔ blankLine <:+: bs := by
  induction bs with
  | nil => decide
  | cons b bs ih =>
    rw [hasBlankLine, Bool.or_eq_true, List.isPrefixOf_iff_prefix, ih, List.infix_cons_iff]

theorem headEnds_iff {head : List UInt8} :
    headEnds head ↔ blankLine <:+: head ∨ headLimit ≤ head.length := by
  rw [headEnds, Bool.or_eq_true, hasBlankLine_iff, decide_eq_true_iff]

variable {σ : Type}

def readHead (w : Wire σ) (head : List UInt8) (s : σ) : Except IoFailure (List UInt8) × σ :=
  if headEnds head then (.ok head, s)
  else
    match w.read s with
    | (.error e, s') => (.error e, s')
    | (.ok [], s') => (.ok head, s')
    | (.ok (b :: bs), s') => readHead w (head ++ (b :: bs).take readLimit) s'
termination_by headLimit - head.length
decreasing_by
  rename_i h
  simp only [headEnds, Bool.or_eq_true, decide_eq_true_eq, not_or, Nat.not_le] at h
  have : 0 < ((b :: bs).take readLimit).length := by simp [readLimit]
  rw [List.length_append]
  omega

def writeZero : IoFailure := ⟨.writeZero, "write zero"⟩

def writeAll (w : Wire σ) (bytes : List UInt8) (s : σ) : Except IoFailure Unit × σ :=
  match bytes with
  | [] => (.ok (), s)
  | b :: bs =>
    match _ : w.write (b :: bs) s with
    | (.error e, s') => if e.kind = .interrupted then writeAll w (b :: bs) s' else (.error e, s')
    | (.ok 0, s') => (.error writeZero, s')
    | (.ok (n + 1), s') => writeAll w (bs.drop n) s'
termination_by (bytes.length, w.interruptions s)
decreasing_by
  · exact Prod.Lex.right _ (w.interruptions_lt ‹_› ‹_›)
  · exact Prod.Lex.left _ _ (by simp only [List.length_drop, List.length_cons]; omega)

/-- The response to a request whose head is made of the given bytes. -/
def response (root : String) (head : List UInt8) : Response :=
  respond (String.ofList (requestPath (Text.Utf8.lossy head))) root

def Response.bytes (r : Response) : List UInt8 := r.text.toUTF8.data.toList

/-- The name the application goes by. -/
def applicationName : String := "hello-world"

def serve (w : Wire σ) (root : String) (s : σ) : Except IoFailure Unit × σ :=
  match readHead w [] s with
  | (.error e, s) => (.error e, s)
  | (.ok head, s) =>
    match writeAll w (response root head).bytes s with
    | (.error e, s) => (.error e, s)
    | (.ok (), s) => w.close s

end ServiceBootstrap.Hello
