import ChipEight.Host.Basic

/-!
# Surroundings in memory

A host as a value: the files as they are, all that was written so far, and the
readings that the clock has left. Machines run at once, for pacing does not
change what they do.
-/

namespace ChipEight

/-- What surrounds a program. The clock gives its readings in turn and then
repeats the last one. A text that is read has room for as many containers inside
each other as calls are left. -/
structure Surroundings where
  files : Files := {}
  out : String := ""
  err : String := ""
  readings : List Number := []
  seed : Int := 0
  room : Nat := maxCalls - openCalls

namespace Surroundings

/-- Writes to a stream. -/
def emit (w : Surroundings) (text : String) : Stream → Surroundings
  | .out => { w with out := w.out ++ text }
  | .err => { w with err := w.err ++ text }

/-- The next reading of the clock. -/
def tick (w : Surroundings) : Number × Surroundings :=
  match w.readings with
  | [] => (.real 0.0, w)
  | [last] => (last, w)
  | next :: rest => (next, { w with readings := rest })

/-- Puts bytes into a file, where that is possible. -/
def write (w : Surroundings) (name : String) (bytes : List UInt8) :
    Except FileFault Unit × Surroundings :=
  match w.files.write name bytes with
  | .ok files => (.ok (), { w with files })
  | .error f => (.error f, w)

end Surroundings

instance : Host (StateM Surroundings) where
  emit s text := modify (·.emit text s)
  read name := do return (← get).files.read name
  write name bytes := modifyGet (·.write name bytes)
  room := do return (← get).room
  entropy := do return (← get).seed
  now := modifyGet (·.tick)
  drive limits c := return c.run Machine.standingClock limits Machine.ample
  labour _ := return ()

end ChipEight
