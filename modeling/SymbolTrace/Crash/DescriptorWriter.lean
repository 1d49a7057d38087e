/-!
# Writing to a file descriptor

A crash report is written without buffers, by system calls that may take only the first part of
what they are offered, be interrupted before taking anything, take nothing, or fail. The writer
offers what is left until all is taken; an interrupted call is made again, and a call that takes
nothing or fails ends the attempt.

`transfer` follows the writer through a given sequence of answers of the system.
-/

namespace SymbolTrace.Crash

/-- The system's answer to one call that offers it bytes. -/
inductive CallAnswer where
  /-- The first `count` bytes were taken. -/
  | took (count : Nat)
  | tookNothing
  | interrupted
  | failed
deriving DecidableEq, Repr

/-- Where the writer stands after a sequence of answers. -/
inductive TransferStatus where
  /-- Everything was taken. -/
  | complete
  /-- An answer ended the attempt. -/
  | broken
  /-- These bytes are still to be offered. -/
  | waiting (rest : List UInt8)
deriving DecidableEq, Repr

/-- What happened while bytes were written. -/
structure Transfer where
  /-- What each call was offered, in order. -/
  offers : List (List UInt8)
  /-- The bytes taken, in order. -/
  taken : List UInt8
  status : TransferStatus
deriving DecidableEq, Repr

/-- The transfer that begins with a call which was offered `offer` and took `taken` of it. -/
def Transfer.after (offer taken : List UInt8) (rest : Transfer) : Transfer where
  offers := offer :: rest.offers
  taken := taken ++ rest.taken
  status := rest.status

/-- Write bytes under a sequence of answers. No call is made for nothing. -/
def transfer (bytes : List UInt8) (answers : List CallAnswer) : Transfer :=
  match bytes, answers with
  | [], _ => ⟨[], [], .complete⟩
  | bytes, [] => ⟨[], [], .waiting bytes⟩
  | bytes, .took count :: answers =>
      (transfer (bytes.drop count) answers).after bytes (bytes.take count)
  | bytes, .interrupted :: answers => (transfer bytes answers).after bytes []
  | bytes, .tookNothing :: _ => ⟨[bytes], [], .broken⟩
  | bytes, .failed :: _ => ⟨[bytes], [], .broken⟩
termination_by answers.length

end SymbolTrace.Crash
