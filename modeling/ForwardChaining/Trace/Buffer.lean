import ForwardChaining.Log
import ForwardChaining.Trace.Event
import ForwardChaining.Trace.PassIndex

/-!
# Trace buffers

A trace buffer keeps the latest records, up to a given number, and drops the oldest.  The
numbers of records go on rising when records are dropped and when the buffer is cleared.
The records of a pass need not stand together, since a run can be rewound.
-/

namespace ForwardChaining

/-- The latest records of a trace. -/
structure TraceBuffer where
  /-- The records, in order. -/
  log : Log TraceRecord
  /-- How many records are kept. -/
  maxSize : Nat
  /-- The number of the next record. -/
  nextId : Nat
  /-- How many of the records belong to each pass. -/
  perPass : PassIndex
  deriving DecidableEq

/-- A summary of a trace buffer. -/
structure TraceStats where
  recordCount : Nat
  maxSize : Nat
  oldestPass : Option Nat
  newestPass : Option Nat
  /-- The number of distinct passes. -/
  passCount : Nat
  /-- The kinds of the records, each with its number of records. -/
  kindCounts : List (String × Nat)
  deriving DecidableEq

/-- The number of records of a kind. -/
def TraceStats.count (s : TraceStats) (kind : String) : Nat :=
  (s.kindCounts.lookup kind).getD 0

namespace TraceBuffer

/-- The buffer without records that keeps `maxSize` of them. -/
def empty (maxSize : Nat := 10000) : TraceBuffer where
  log := .empty
  maxSize := maxSize
  nextId := 0
  perPass := .empty

/-- The records, oldest first. -/
def records (b : TraceBuffer) : List TraceRecord :=
  b.log.toList

/-- The latest record. -/
def latest? (b : TraceBuffer) : Option TraceRecord :=
  b.log.latest?

/-- The buffer without its oldest record. -/
def dropOldest (b : TraceBuffer) : TraceBuffer :=
  match b.log.oldest? with
  | none => b
  | some oldest => { b with log := b.log.dropOldest, perPass := b.perPass.remove oldest.pass }

/-- The buffer without as many of its oldest records as it has too many. -/
def trim (b : TraceBuffer) : TraceBuffer :=
  Nat.repeat dropOldest (b.log.size - b.maxSize) b

/-- The buffer with one more record, whose number is `b.nextId`. -/
def push (b : TraceBuffer) (pass timestamp : Nat) (event : TraceEvent) : TraceBuffer :=
  let record : TraceRecord := ⟨b.nextId, pass, timestamp, event⟩
  { b with
    log := b.log.push record
    nextId := b.nextId + 1
    perPass := b.perPass.add pass }.trim

/-- The buffer without records. -/
def clear (b : TraceBuffer) : TraceBuffer :=
  { b with log := .empty, perPass := .empty }

/-- The record with the given number, if it is kept.  The numbers of the records follow one
another, so its place is its distance from the oldest. -/
def get? (b : TraceBuffer) (id : Nat) : Option TraceRecord :=
  match b.log.oldest? with
  | none => none
  | some oldest => if oldest.id ≤ id then b.records[id - oldest.id]? else none

/-- The number of records of a pass. -/
def passSize (b : TraceBuffer) (pass : Nat) : Nat :=
  b.perPass.count pass

/-- The records of a pass. -/
def recordsForPass (b : TraceBuffer) (pass : Nat) : List TraceRecord :=
  if b.passSize pass = 0 then [] else b.records.filter (·.pass = pass)

/-- The records of the passes from `first` to `last`. -/
def recordsInRange (b : TraceBuffer) (first last : Nat) : List TraceRecord :=
  if last < first || !b.perPass.passes.any (fun p => first ≤ p && p ≤ last) then []
  else b.records.filter fun r => first ≤ r.pass && r.pass ≤ last

/-- The latest `count` records, oldest first. -/
def recent (b : TraceBuffer) (count : Nat) : List TraceRecord :=
  b.log.latest count

/-- The records of a kind. -/
def ofKind (b : TraceBuffer) (kind : String) : List TraceRecord :=
  b.records.filter (·.event.kind = kind)

/-- The passes that have records, ascending. -/
def passes (b : TraceBuffer) : List Nat :=
  b.perPass.passes

/-- A summary of the buffer. -/
def stats (b : TraceBuffer) : TraceStats :=
  let kinds := (b.records.map (·.event.kind)).eraseDups
  { recordCount := b.log.size
    maxSize := b.maxSize
    oldestPass := b.passes.head?
    newestPass := b.passes.getLast?
    passCount := b.passes.length
    kindCounts := kinds.map fun kind => (kind, (b.ofKind kind).length) }

end TraceBuffer

end ForwardChaining
