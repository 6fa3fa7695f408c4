import LogTree.Failure
import LogTree.LineMode
import LogTree.Timestamp

namespace LogTree

/-- A time at which records are made. It has a date in the calendar, in Greenwich and in the zone:
without one there is nothing to show. -/
structure Moment where
  instant : Instant
  /-- Seconds by which the clocks of the zone are ahead of Greenwich. -/
  offset : Int := 0
  dated : (instant.timestamp? offset).isSome := by decide
deriving DecidableEq

def Moment.stamp (moment : Moment) : String :=
  (moment.instant.timestamp? moment.offset).get moment.dated

/-- The message of a record. It is rendered by each handler that needs its text, and rendering may
fail. -/
inductive Message where
  | text (text : String)
  | failing
deriving DecidableEq

/-- What a caller hands over to be logged, apart from its level and its error. -/
structure Draft where
  message : Message
  thread : Option String
  moment : Moment
deriving DecidableEq

structure Record where
  level : Level
  /-- The name of the logger to which the record was handed. -/
  logger : String
  message : Message
  thread : Option String
  error : Option String
  moment : Moment
deriving DecidableEq

structure Captured where
  level : Level
  logger : String
  message : String
  thread : Option String
  error : Option String
deriving DecidableEq

namespace Record

def ofDraft (logger : String) (level : Level) (failure : Option Failure) (draft : Draft) : Record :=
  { level, logger, message := draft.message, thread := draft.thread,
    error := failure.map Failure.render, moment := draft.moment }

def capture (record : Record) (message : String) : Captured :=
  { level := record.level, logger := record.logger, message, thread := record.thread,
    error := record.error }

end Record

structure Layout where
  timestamps : Bool := true
  lineMode : LineMode := default
deriving DecidableEq

namespace Layout

/-- A record as text: timestamp, level, logger and message, then the error on lines of its own. -/
def render (layout : Layout) (record : Record) (message : String) : String :=
  (if layout.timestamps then record.moment.stamp ++ " " else "") ++
    record.level.text ++ " " ++ record.logger ++ " " ++ message ++
    (match record.error with
      | none => ""
      | some error => "\n" ++ error) ++
    layout.lineMode.terminator

end Layout

end LogTree
