import EntityModel.Counters.Path
import EntityModel.Numeral.Integer
import EntityModel.Table
import EntityModel.Text.Upper

/-!
# Counters

A process counts the requests it has answered and some named events. A request counts three times: in the
total, under its method, and under its path together with its status. The three are kept in one table
under keys of different shapes. A request whose status has more digits than are written is not counted at all.
-/

namespace EntityModel

/-- The value of a counter; a counter that was never set is at zero. -/
def Table.count (t : Table String Int) (key : String) : Int := (t.lookup key).getD 0

/-- Adds to a counter. -/
def Table.bump (key : String) (amount : Int) (t : Table String Int) : Table String Int :=
  Table.put key (Table.count t key + amount) t

/-- Why a request is not counted. -/
inductive StatusFault where
  /-- Its status has more digits than are written. -/
  | tooLong
  deriving DecidableEq, Repr

/-- The wording of a fault. -/
def StatusFault.message : StatusFault → String
  | tooLong =>
      "Exceeds the limit (4300 digits) for integer string conversion; " ++
        "use sys.set_int_max_str_digits() to increase the limit"

/-- What is counted. -/
structure Counters where
  /-- Counters of requests. -/
  requests : Table String Int := []
  /-- Named counters. -/
  named : Table String Int := []
  deriving DecidableEq, Repr, Inhabited

namespace Counters

/-! ## Requests -/

/-- The key of the number of all requests. -/
def totalKey : String := "requests_total"

/-- The method that a request is counted under. -/
def methodLabel (method : String) : String := if method = "" then "UNKNOWN" else Text.upper method

/-- The key of the requests with a method. -/
def methodKey (method : String) : String := "requests_" ++ methodLabel method

/-- The status that a request is counted under, in decimal digits. -/
def statusLabel : Option Int → String
  | some status => toString status
  | none => "unknown"

/-- The key of the requests to a path that were answered with a status. -/
def pathKey (path : String) (status : Option Int) : String :=
  "path_" ++ normalizePath path ++ "|" ++ statusLabel status

/-- There is no status, or it can be written. -/
def isWritable (status : Option Int) : Bool := status.all Numeral.isWritable

/-- Adds a request to the counters. -/
def addRequest (method path : String) (status : Option Int) (c : Counters) : Counters :=
  { c with
    requests := Table.bump (pathKey path status) 1
        (Table.bump (methodKey method) 1 (Table.bump totalKey 1 c.requests)) }

/-- Counts a request. The status is written before anything is counted. -/
def countRequest (method path : String) (status : Option Int) (c : Counters) : Except StatusFault Counters :=
  if isWritable status then .ok (c.addRequest method path status) else .error .tooLong

/-! ## Events -/

/-- Counts a named event some number of times; an event without a name is not counted. -/
def countNamed (name : String) (amount : Int) (c : Counters) : Counters :=
  if name = "" then c else { c with named := Table.bump name amount c.named }

/-- Counts a compilation by its outcome. -/
def countCompilation (succeeded : Bool) (c : Counters) : Counters :=
  c.countNamed (if succeeded then "compilations_ok" else "compilations_failed") 1

end Counters

end EntityModel
