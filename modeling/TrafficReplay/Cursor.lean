import TrafficReplay.Record

namespace TrafficReplay

inductive CursorScope where
  | lane
  | global
deriving DecidableEq, Repr

inductive CursorMissPolicy where
  | passThrough
  | fail
deriving DecidableEq, Repr

inductive CursorLookup where
  | bound (live : Int64)
  | miss (recorded : Int64)
deriving DecidableEq, Repr

namespace CursorLookup

def liveId : CursorLookup → Int64
  | .bound id | .miss id => id

def isMiss : CursorLookup → Bool
  | .bound _ => false
  | .miss _ => true

end CursorLookup

structure CursorBinding where
  live : Int64
  owner : LaneId
deriving DecidableEq

structure CursorTable where
  bindings : List (Int64 × CursorBinding)
deriving DecidableEq

namespace CursorTable

def empty : CursorTable := ⟨[]⟩

instance : Inhabited CursorTable := ⟨empty⟩

def resolve (table : CursorTable) (recorded : Int64) : CursorLookup :=
  match table.bindings.lookup recorded with
  | some binding => .bound binding.live
  | none => .miss recorded

def release (table : CursorTable) (recorded : Int64) : CursorTable :=
  ⟨table.bindings.filter fun entry => entry.1 ≠ recorded⟩

/-- The last binding of an id wins. -/
def bind (table : CursorTable) (lane : LaneId) (recorded live : Int64) : CursorTable :=
  ⟨(recorded, ⟨live, lane⟩) :: (table.release recorded).bindings⟩

def releaseOwner (table : CursorTable) (lane : LaneId) : CursorTable :=
  ⟨table.bindings.filter fun entry => entry.2.owner ≠ lane⟩

def size (table : CursorTable) : Nat := table.bindings.length

def isEmpty (table : CursorTable) : Bool := table.size = 0

end CursorTable

inductive CursorHome where
  | own (table : CursorTable)
  | shared
deriving DecidableEq

namespace CursorHome

def ofScope : CursorScope → CursorHome
  | .lane => .own .empty
  | .global => .shared

instance : Inhabited CursorHome := ⟨.own .empty⟩

def table : CursorHome → CursorTable → CursorTable
  | .own table, _ => table
  | .shared, common => common

def modify (change : CursorTable → CursorTable) :
    CursorHome → CursorTable → CursorHome × CursorTable
  | .own table, common => (.own (change table), common)
  | .shared, common => (.shared, change common)

def bind (home : CursorHome) (common : CursorTable) (lane : LaneId) (recorded live : Int64) :
    CursorHome × CursorTable :=
  home.modify (·.bind lane recorded live) common

def release (home : CursorHome) (common : CursorTable) (recorded : Int64) :
    CursorHome × CursorTable :=
  home.modify (·.release recorded) common

/-- A lane's own table is emptied; of the shared one only what the lane bound goes. -/
def releaseLane (home : CursorHome) (common : CursorTable) (lane : LaneId) :
    CursorHome × CursorTable :=
  match home with
  | .own _ => (.own .empty, common)
  | .shared => (.shared, common.releaseOwner lane)

end CursorHome

/-- The homes of several holders together with the shared table. -/
structure CursorTables where
  homes : List CursorHome
  common : CursorTable
deriving DecidableEq

namespace CursorTables

def ofScope (scope : CursorScope) (holders : Nat) : CursorTables :=
  ⟨List.replicate holders (.ofScope scope), .empty⟩

def welcome (tables : CursorTables) (scope : CursorScope) : CursorTables :=
  { tables with homes := tables.homes ++ [.ofScope scope] }

def change (tables : CursorTables) (holder : Nat)
    (step : CursorHome → CursorTable → CursorHome × CursorTable) : CursorTables :=
  match tables.homes[holder]? with
  | none => tables
  | some home =>
    let (home, common) := step home tables.common
    ⟨tables.homes.set holder home, common⟩

def bind (tables : CursorTables) (holder : Nat) (lane : LaneId) (recorded live : Int64) :
    CursorTables :=
  tables.change holder fun home common => home.bind common lane recorded live

def release (tables : CursorTables) (holder : Nat) (recorded : Int64) : CursorTables :=
  tables.change holder fun home common => home.release common recorded

def releaseLane (tables : CursorTables) (holder : Nat) (lane : LaneId) : CursorTables :=
  tables.change holder fun home common => home.releaseLane common lane

def resolve? (tables : CursorTables) (holder : Nat) (recorded : Int64) : Option CursorLookup :=
  tables.homes[holder]?.map fun home => (home.table tables.common).resolve recorded

def sizes (tables : CursorTables) : List Nat :=
  tables.homes.map fun home => (home.table tables.common).size

def isEmpty? (tables : CursorTables) (holder : Nat) : Option Bool :=
  tables.homes[holder]?.map fun home => (home.table tables.common).isEmpty

end CursorTables

end TrafficReplay
