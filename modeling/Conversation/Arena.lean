import Conversation.Table

namespace Conversation

/-- The next free state, and the anchors of the states handed out so far. -/
structure Arena where
  next : State
  anchors : Table State
  deriving Inhabited

namespace Arena

def empty : Arena := { next := 0, anchors := [] }

/-- The next state. Below 2^32 states it is the one that a number of 32 bits stands for. -/
def alloc (arena : Arena) (anchor : Option State) : State × Arena :=
  (arena.next,
    { next := arena.next + 1
      anchors := match anchor with
        | some anchor => Table.insert arena.next anchor arena.anchors
        | none => arena.anchors })

end Arena

end Conversation
