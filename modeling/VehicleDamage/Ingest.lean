import VehicleDamage.Service

/-!
Reports fed through a row of queues. A vehicle's reports all go to one queue, chosen by a hash of its identifier;
each worker takes from its own queue, and the workers may take turns in any order.
-/

namespace VehicleDamage

/-- The bytes of a text folded by exclusive or and multiplication in 64 bits. -/
def fnvHash (key : String) : UInt64 :=
  key.toUTF8.toList.foldl (fun hash byte => (hash ^^^ byte.toUInt64) * 0x100000001b3) 0xcbf29ce484222325

/-- The queue for a key, of `max shards 1`. -/
def shardFor (key : String) (shards : Nat) : Nat :=
  (fnvHash key).toNat % max shards 1

/-- How many reports were applied, dropped and refused. Each is counted once, so counters of 64 bits show the same as
long as there are fewer than `2 ^ 64` of them. -/
structure Stats where
  applied : Nat
  dropped : Nat
  failed : Nat
deriving DecidableEq, Repr

def Stats.count (s : Stats) : Except ServiceFault Outcome → Stats
  | .error _ => { s with failed := s.failed + 1 }
  | .ok outcome => if outcome.isDropped then { s with dropped := s.dropped + 1 }
    else { s with applied := s.applied + 1 }

def Stats.add (s t : Stats) : Stats :=
  ⟨s.applied + t.applied, s.dropped + t.dropped, s.failed + t.failed⟩

/-- A service with queues before it. -/
structure Pipeline where
  service : Service
  queues : List (List Report)
  stats : Stats
  notes : List Note

namespace Pipeline

/-- Start with the number of workers asked for, but at least one. -/
def spawn (service : Service) (workers : Nat) : Pipeline :=
  ⟨service, List.replicate (max workers 1) [], ⟨0, 0, 0⟩, []⟩

def workerCount (p : Pipeline) : Nat :=
  p.queues.length

def enqueue (p : Pipeline) (report : Report) : Pipeline :=
  { p with queues := p.queues.modify (shardFor report.vehicle p.workerCount) (· ++ [report]) }

/-- The worker of a queue handles a report. -/
def handle (p : Pipeline) (shard : Nat) (report : Report) : Pipeline :=
  let (result, service) := p.service.record report
  let failure := match result with
    | .error fault => [.reportFailed shard report.vehicle fault]
    | .ok _ => []
  { p with service, stats := p.stats.count result, notes := p.notes ++ p.service.recordNotes report ++ failure }

/-- One step of the worker of a queue: take the report at its front. -/
def step (p : Pipeline) (shard : Nat) : Pipeline :=
  match p.queues[shard]? with
  | some (report :: more) => { p with queues := p.queues.set shard more }.handle shard report
  | _ => p

/-- Let workers take steps in the order of a schedule. -/
def run (p : Pipeline) (schedule : List Nat) : Pipeline :=
  schedule.foldl step p

/-- A schedule that empties every queue: worker after worker. -/
def drainSchedule (p : Pipeline) : List Nat :=
  p.queues.zipIdx.flatMap fun (queue, shard) => List.replicate queue.length shard

/-- Close the queues and wait until they are empty. -/
def shutdown (p : Pipeline) : Pipeline :=
  p.run p.drainSchedule

end Pipeline

/-- Feed reports through a pipeline of their own. -/
def Service.ingest (s : Service) (workers : Nat) (reports : List Report) : Pipeline :=
  (reports.foldl Pipeline.enqueue (.spawn s workers)).shutdown

end VehicleDamage
