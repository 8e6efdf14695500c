import Mathlib.Data.Nat.Notation

/-!
# JetStream configuration

The limits of the `INGEST` stream and of its durable consumer that decide how
long and how often a work item is delivered.  Durations are in nanoseconds.
-/

namespace ComplyTime.Streams

structure StreamConfig where
  maxAge : ℕ
  deriving DecidableEq, Repr

structure ConsumerConfig where
  maxDeliver : ℕ
  deriving DecidableEq, Repr

def seconds (count : ℕ) : ℕ := count * 1000000000

def hours (count : ℕ) : ℕ := seconds (count * 3600)

def ingestStreamConfig : StreamConfig where
  maxAge := hours 72

def ingestConsumerConfig : ConsumerConfig where
  maxDeliver := 5

end ComplyTime.Streams
