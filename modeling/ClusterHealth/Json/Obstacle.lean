import ClusterHealth.Json.Value
import ClusterHealth.Text.Surrogates

/-!
# Obstacles to writing

A value cannot be written if a text in it holds a surrogate, or if more values lie inside one
another than the writer has room for. The keys of members are no obstacle.
-/

namespace ClusterHealth.Json

inductive Obstacle
  | surrogates (run : SurrogateRun)
  | depth
  deriving DecidableEq, Repr

def Obstacle.message : Obstacle → Text
  | surrogates run => "UnicodeEncodeError: " ++ run.message
  | depth => "ValueError: Circular reference detected (depth exceeded)"

mutual

/-- Whether no more than so many values lie inside one another. -/
def fits (room : Nat) : Json → Bool
  | array items => decide (0 < room) && fitItems (room - 1) items
  | object members => decide (0 < room) && fitMembers (room - 1) members
  | _ => decide (0 < room)

def fitItems (room : Nat) : List Json → Bool
  | [] => true
  | item :: items => fits room item && fitItems room items

def fitMembers (room : Nat) : List (Text × Json) → Bool
  | [] => true
  | (_, value) :: members => fits room value && fitMembers room members

end

mutual

/-- The first obstacle in the order of writing, for a writer with room for so many values inside one
another. -/
def obstacle? (room : Nat) : Json → Option Obstacle
  | text t => if room = 0 then some .depth else t.surrogateRun?.map .surrogates
  | array items => if room = 0 then some .depth else obstacleOfItems? (room - 1) items
  | object members => if room = 0 then some .depth else obstacleOfMembers? (room - 1) members
  | _ => if room = 0 then some .depth else none

def obstacleOfItems? (room : Nat) : List Json → Option Obstacle
  | [] => none
  | item :: items => (obstacle? room item).or (obstacleOfItems? room items)

def obstacleOfMembers? (room : Nat) : List (Text × Json) → Option Obstacle
  | [] => none
  | (_, value) :: members => (obstacle? room value).or (obstacleOfMembers? room members)

end

end ClusterHealth.Json
