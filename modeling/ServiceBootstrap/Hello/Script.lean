import ServiceBootstrap.Hello.Serve

/-!
Connections that follow a script: what comes in and in which chunks, how much goes out at a time,
and where reading, writing or closing fails.
-/

namespace ServiceBootstrap.Hello

inductive Chunk where
  | bytes (bs : List UInt8)
  | fails (failure : IoFailure)
  deriving DecidableEq, Repr

structure Script where
  /-- What is still to come in. -/
  incoming : List Chunk
  /-- The most bytes one write takes. -/
  writeLimit : Option Nat := none
  /-- How many bytes are taken before a write fails. It fails once. -/
  writeFailure : Option (Nat × IoFailure) := none
  closeFailure : Option IoFailure := none
  bytesRead : Nat := 0
  written : List UInt8 := []
  closed : Bool := false
  deriving DecidableEq, Repr

namespace Script

/-- Takes from the first chunk only; what the read leaves of it stays first. -/
def read (s : Script) : Except IoFailure (List UInt8) × Script :=
  match s.incoming with
  | [] => (.ok [], s)
  | .fails e :: rest => (.error e, { s with incoming := rest })
  | .bytes bs :: rest =>
    let taken := bs.take readLimit
    let left := bs.drop readLimit
    let incoming := if left.isEmpty then rest else .bytes left :: rest
    (.ok taken, { s with incoming, bytesRead := s.bytesRead + taken.length })

def accept (bytes : List UInt8) (s : Script) : Except IoFailure Nat × Script :=
  let taken := match s.writeLimit with
    | some n => bytes.take n
    | none => bytes
  (.ok taken.length, { s with written := s.written ++ taken })

def write (bytes : List UInt8) (s : Script) : Except IoFailure Nat × Script :=
  match s.writeFailure with
  | none => s.accept bytes
  | some (limit, e) =>
    let room := limit - s.written.length
    if room = 0 then (.error e, { s with writeFailure := none })
    else s.accept (bytes.take room)

def close (s : Script) : Except IoFailure Unit × Script :=
  match s.closeFailure with
  | some e => (.error e, s)
  | none => (.ok (), { s with closed := true })

/-- How many writes are still to fail. -/
def writeFailures (s : Script) : Nat := s.writeFailure.toList.length

theorem writeFailures_lt {bytes : List UInt8} {s s' : Script} {e : IoFailure}
    (h : write bytes s = (.error e, s')) : s'.writeFailures < s.writeFailures := by
  unfold write at h
  split at h
  · cases h
  · rename_i hf
    dsimp only at h
    split at h
    · cases h
      simp [writeFailures, hf]
    · cases h

def wire : Wire Script where
  read := read
  write := write
  close := close
  interruptions := writeFailures
  interruptions_lt h _ := writeFailures_lt h

end Script

end ServiceBootstrap.Hello
