/-
# Weights

A weighted choice gives each read a stretch of the line from zero to the total
weight, as long as its weight, and takes the read whose stretch holds a given
point.  Reads without a weight of their own weigh one.  Both the total and the
ends of the stretches are sums from left to right, rounded at each step.
-/

import ShardProxy.Decimal.Read
import ShardProxy.Decimal.Shortest
import ShardProxy.Routing.Error
import ShardProxy.Text.Blank

namespace ShardProxy

/-- Weights by data source. -/
structure Weights where
  entries : List (String × Float)
  deriving DecidableEq

namespace Weights

/-- Where totals start: negative zero, which changes no number that is added to it. -/
def start : Float := -0.0

/-- The weight of a read. -/
def weight (weights : Weights) (read : String) : Float :=
  (weights.entries.lookup read).getD 1.0

/-- Weights summed up from the left. -/
def sum (ws : List Float) : Float :=
  ws.foldl (· + ·) start

/-- The total weight of reads. -/
def total (weights : Weights) (reads : List String) : Float :=
  sum (reads.map weights.weight)

/-- The position of the first read whose stretch ends beyond a point, when the stretches
before end at `done`. -/
def stretch? (weights : Weights) (point done : Float) : List String → Option Nat
  | [] => none
  | read :: reads =>
    let done := done + weights.weight read
    if point < done then some 0 else (weights.stretch? point done reads).map (· + 1)

/-- The position of the read whose stretch holds a point; the last read takes a point that
no stretch holds. -/
def pick (weights : Weights) (reads : List String) (point : Float) : Nat :=
  (weights.stretch? point 0.0 reads).getD (reads.length - 1)

/-- A stretch that is found is that of a read in the list. -/
theorem lt_length_of_stretch? {weights : Weights} {point : Float} :
    ∀ {reads : List String} {done : Float} {n : Nat},
      weights.stretch? point done reads = some n → n < reads.length
  | [], _, _, h => by cases h
  | read :: reads, _, _, h => by
    rw [stretch?] at h
    split at h
    · cases h
      exact Nat.zero_lt_succ _
    · obtain ⟨n, hn, rfl⟩ := Option.map_eq_some_iff.1 h
      exact Nat.succ_lt_succ (lt_length_of_stretch? hn)

/-- **A choice is a position in the list.** -/
theorem pick_lt (weights : Weights) {reads : List String} (point : Float) (hne : reads ≠ []) :
    weights.pick reads point < reads.length := by
  rw [pick]
  cases h : weights.stretch? point 0.0 reads with
  | none => exact Nat.sub_lt (List.length_pos_iff.2 hne) Nat.one_pos
  | some n => exact lt_length_of_stretch? h

/-- Reads one weight: a positive finite number. -/
def readWeight (dataSource raw : String) : Except ConfigFault Float :=
  match Decimal.read? (Text.trimmed raw) with
  | none => .error (.weightNotNumber dataSource raw)
  | some w =>
    if !w.isFinite || w ≤ 0.0 then .error (.weightNotPositive dataSource raw) else .ok w

/-- Reads weights in order. -/
def readAll : List (String × String) → Except ConfigFault (List (String × Float))
  | [] => .ok []
  | (dataSource, raw) :: props =>
    match readWeight dataSource raw with
    | .error e => .error e
    | .ok w =>
      match readAll props with
      | .error e => .error e
      | .ok ws => .ok ((dataSource, w) :: ws)

/-- Reads the weights of a configuration; their sum has to be finite. -/
def ofProps (props : List (String × String)) : Except ConfigFault Weights :=
  match readAll props with
  | .error e => .error e
  | .ok ws => if (sum (ws.map Prod.snd)).isFinite then .ok ⟨ws⟩ else .error .weightsOverflow

/-- The total weight of a group's reads, if a point can be drawn below it. -/
def usableTotal (weights : Weights) (group : String) (reads : List String) :
    Except ConfigFault Float :=
  let total := weights.total reads
  if !total.isFinite || total ≤ 0.0 then .error (.unusableTotal group (Decimal.text total))
  else .ok total

end Weights

end ShardProxy
