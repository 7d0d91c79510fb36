import TrafficReplay.Rehearsal.Basic

namespace TrafficReplay

inductive Cue where
  /-- The stream yields a record; unless told otherwise, its stat record is waited for. -/
  | record (record : Record) (waits : Bool)
  | failure (text : String)
  | finish
  | cancel
  | silence (silent : Bool)
  | refuse (refusing : Bool)
  | sleep (time : Nat)

def Cue.unfailing : Cue → Cue
  | .failure _ => .finish
  | cue => cue

structure Sight where
  stats : List Stat
  ended : Bool

structure Performance where
  state : Rehearsal
  /-- Requests among the cues so far, those that came too late for the stream included. -/
  asked : Nat
  sights : List Sight

namespace Performance

def ofRehearsal (state : Rehearsal) : Performance := ⟨state, 0, []⟩

def sorted (stats : List Stat) : List Stat :=
  stats.mergeSort fun a b => decide (a.lane < b.lane ∨ a.lane = b.lane ∧ a.seq ≤ b.seq)

def feed (state : Rehearsal) (item : StreamItem) : Rehearsal :=
  if state.exhausted then state else { state with feed := state.feed ++ [item] }

def apply (state : Rehearsal) : Cue → Rehearsal
  | .record record _ => feed state (.record record)
  | .failure text => feed state (.failure text)
  | .finish => { state with exhausted := true }
  | .cancel => { state with run := state.run.cancel }
  | .silence silent => { state with server := { state.server with silent := silent } }
  | .refuse refusing => { state with server := { state.server with refusing := refusing } }
  | .sleep _ => state

def isQuestion : Cue → Bool
  | .record record _ => !record.isResponse
  | _ => false

def await (asked : Nat) (state : Rehearsal) : Cue → Rehearsal
  | .record record waits =>
    if waits && !record.isResponse then
      state.waitUntil fun state => asked ≤ state.stats.length
    else state.settle
  | .sleep time => state.sleep time
  | _ => state.settle

def follow (performance : Performance) (cue : Cue) : Performance :=
  if performance.state.isFinished then performance
  else
    let asked := performance.asked + if isQuestion cue then 1 else 0
    let seen := performance.state.stats.length
    let state := await asked (apply performance.state cue) cue
    { state := state
      asked := asked
      sights := performance.sights ++ [⟨sorted (state.stats.drop seen), state.isFinished⟩] }

def conclude (state : Rehearsal) : Rehearsal :=
  { state with exhausted := true }.waitUntil fun _ => false

def follows (state : Rehearsal) (cues : List Cue) : Performance :=
  cues.foldl follow (ofRehearsal state)

def burst (state : Rehearsal) (cues : List Cue) : Rehearsal := conclude (cues.foldl apply state)

end Performance

end TrafficReplay
